import TopicShell.Program.Options
import TopicShell.Program.Pattern

/-!
# Searching

`grep` selects the lines in which a pattern occurs, or those in which it does not.
-/

namespace TopicShell.Program

open Text

/-! ## Patterns -/

/-- The pattern of all given texts, each line of which is an alternative. -/
def searchPattern (o : Options) (texts : List String) : Except Pattern.PatternFault Pattern :=
  let fold := o.has 'i' || o.has 'y'
  let one (text : Octets) : Except Pattern.PatternFault Pattern :=
    if o.has 'F' then .ok (Pattern.fixed fold text)
    else Pattern.parse { extended := o.has 'E' || o.has 'P', fold, closesAlone := true } text
  let bounded (p : Pattern) : Pattern :=
    if o.has 'x' then p.wholeLine else if o.has 'w' then p.wholeWord else p
  match (texts.flatMap fun t => (Utf8.encode t).splitOnP (· == 10)).mapM one with
  | .error e => .error e
  | .ok [] => .ok .nothing
  | .ok (first :: more) => .ok (more.foldl (fun p q => .either p (bounded q)) (bounded first))

/-! ## Lines with their surroundings -/

/-- A line of a text: its number and whether it is selected. -/
structure Sought where
  number : Nat
  text : Octets
  selected : Bool

/-- The lines up to the last one that may still be selected, and those after it as not selected. -/
def limited : Nat → List Sought → List Sought
  | _, [] => []
  | 0, l :: rest => { l with selected := false } :: limited 0 rest
  | n + 1, l :: rest => l :: limited (if l.selected then n else n + 1) rest

def soughtLines (p : Pattern) (inverted : Bool) (most : Option Nat) (text : Octets) : List Sought :=
  let lines := (linesOf text).zipIdx.map fun (line, i) =>
    { number := i + 1, text := line, selected := p.occursIn line != inverted : Sought }
  most.elim lines (limited · lines)

/-- The lines that are near a selected one: at most `before` in front of it or `after` behind it. -/
def nearby (before after : Nat) (lines : List Sought) : List Sought :=
  let numbers := (lines.filter (·.selected)).map (·.number)
  if before = 0 && after = 0 then lines.filter (·.selected)
  else lines.filter fun l => numbers.any fun n => n ≤ l.number + before && l.number ≤ n + after

/-- Lines with `--` between those that are not neighbours. -/
def grouped (separates : Bool) (shown : Sought → Octets) : Option Nat → List Sought → Octets
  | _, [] => []
  | last, l :: rest =>
    let gap := separates && last.any (· + 1 ≠ l.number)
    (if gap then [45, 45, 10] else []) ++ shown l ++ grouped separates shown (some l.number) rest

/-! ## grep -/

def grepOptions : OptionSet :=
  { flags := ['v', 'i', 'y', 'c', 'n', 'q', 'F', 'E', 'G', 'P', 'o', 'x', 'w', 's', 'a', 'h', 'H', 'l', 'L']
    valued := ['e', 'm', 'A', 'B', 'C'] }

/-- What `grep` writes about one file. -/
def grepFile (o : Options) (p : Pattern) (label : String) (lines : List Sought) : Octets :=
  let amount (c : Char) : Nat := ((o.value? c).bind natural).getD ((o.value? 'C').bind natural |>.getD 0)
  let before := amount 'B'
  let after := amount 'A'
  let count := (lines.filter (·.selected)).length
  let lead (l : Sought) : Octets :=
    let mark := if l.selected then ":" else "-"
    Utf8.encode ((if label.isEmpty then "" else label ++ mark)
      ++ (if o.has 'n' then toString l.number ++ mark else ""))
  if o.has 'c' then
    Utf8.encode ((if label.isEmpty then "" else label ++ ":") ++ toString count ++ "\n")
  else if o.has 'o' then
    if o.has 'v' then []
    else (lines.filter (·.selected)).flatMap fun l =>
      (p.occurrences l.text.length [] (l.text.length + 1) none l.text).flatMap fun found => lead l ++ found ++ [10]
  else
    grouped (0 < before || 0 < after) (fun l => lead l ++ l.text ++ [10]) none (nearby before after lines)
where
  natural (v : String) : Option Nat := natural? v.toList

/-- Searches files, or the input when none is named. -/
def searchFiles (o : Options) (p : Pattern) (files : List String) (j : Job) : Outcome × Job :=
  if (files.isEmpty || files.contains "-") && !j.ended then (none, j)
  else
    let (contents, ok, after) := readAll "grep" (if files.isEmpty then ["-"] else files) j
    let j := if o.has 's' then { after with written := j.written } else after
    let most := (o.value? 'm').bind fun v => natural? v.toList
    let named := o.has 'H' || (1 < files.length && !o.has 'h')
    let results := contents.map fun (name, text) =>
      (if name = "-" then "(standard input)" else name, text, soughtLines p (o.has 'v') most text)
    let found (lines : List Sought) : Bool := lines.any (·.selected)
    let any := results.any fun r => found r.2.2
    let status : Exit := if o.has 'q' && any then .success
      else if !ok then .code 2 else if any then .success else .failure
    let j := results.foldl (fun j (name, text, lines) =>
      if o.has 'q' then j
      else if o.has 'l' then (if found lines then j.print (name ++ "\n") else j)
      else if o.has 'L' then (if found lines then j else j.print (name ++ "\n"))
      else if text.contains 0 && !o.has 'a' && !o.has 'c' then
        if found lines then j.complain ("grep: " ++ name ++ ": binary file matches") else j
      else j.write .output (grepFile o p (if named then name else "") lines)) j
    (some status, j)

def grep : Tool := fun args j =>
  withOptions "grep" grepOptions 2 args j fun o =>
    let given := o.values 'e'
    match given, o.names with
    | [], [] =>
      (some (.code 2), (j.complain "Usage: grep [OPTION]... PATTERNS [FILE]...").complain
        "Try 'grep --help' for more information.")
    | _, _ =>
      let texts := if given.isEmpty then o.names.take 1 else given
      let files := if given.isEmpty then o.names.drop 1 else o.names
      match searchPattern o texts with
      | .error e => (some (.code 2), j.complain ("grep: " ++ e.message))
      | .ok p => searchFiles o p files j

end TopicShell.Program
