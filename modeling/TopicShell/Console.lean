/-!
# Errors on the console

An error is printed as one paragraph.  The console has a markup of its own, in which a tag stands in
brackets: the text of an error is protected from it, which leaves two traces.  A backslash before a
bracket that opens no tag gets lost, and a single backslash at the end is doubled.  The console also
leaves out some control characters and fills tabs with spaces.
-/

namespace TopicShell.Console

/-- A tag starts with one of these. -/
def startsTag (c : Char) : Bool :=
  ('a' ≤ c && c ≤ 'z') || c = '#' || c = '/' || c = '@'

/-- The length of a tag at the front of a text: from its bracket to the next closing one, without
another opening one between them. -/
def tagLength? : List Char → Option Nat
  | '[' :: c :: rest =>
    let body := rest.takeWhile fun x => !(x = '[' || x = ']')
    if startsTag c && rest[body.length]? = some ']' then some (body.length + 3) else none
  | _ => none

/-- What is left of a text that has been protected from the markup; the characters of a tag and the
backslashes before it are kept. -/
def unmarked : Nat → List Char → List Char
  | keep + 1, c :: rest => c :: unmarked keep rest
  | _, [] => []
  | 0, c :: rest =>
    if c = '\\' then
      let more := rest.takeWhile (· = '\\')
      let after := rest.drop more.length
      match tagLength? after with
      | some n => c :: unmarked (more.length + n) rest
      | none => if rest.head? = some '[' then unmarked 1 rest else c :: unmarked 0 rest
    else
      match tagLength? (c :: rest) with
      | some n => c :: unmarked (n - 1) rest
      | none => c :: unmarked 0 rest

/-- A single backslash at the end is doubled. -/
def withEnd (cs : List Char) : List Char :=
  match cs.reverse with
  | ['\\'] => cs ++ ['\\']
  | '\\' :: c :: _ => if c = '\\' then cs else cs ++ ['\\']
  | _ => cs

/-- Characters that move the cursor. -/
def isControl (c : Char) : Bool :=
  let n := c.toNat
  n == 7 || n == 8 || n == 11 || n == 12 || n == 13

/-- Tabs filled up to the next multiple of eight columns. -/
def fillTabs : Nat → List Char → List Char
  | _, [] => []
  | column, c :: rest =>
    if c = '\t' then
      let width := 8 - column % 8
      List.replicate width ' ' ++ fillTabs (column + width) rest
    else c :: fillTabs (if c = '\n' then 0 else column + 1) rest

/-- The line for an error. -/
def errorText (message : String) : String :=
  let shown := (unmarked 0 (withEnd message.toList)).filter fun c => !isControl c
  String.ofList (fillTabs 0 ("Error: ".toList ++ shown)) ++ "\n"

example : errorText "a [bold]b[/bold] \\[x] [1] \\[1]" = "Error: a [bold]b[/bold] \\[x] [1] [1]\n" := by
  decide +kernel
example : errorText "a\\" = "Error: a\\\\\n" := by decide +kernel

end TopicShell.Console
