import TopicShell.Text.Blank

/-!
# Heredocs

The first line of a text opens a heredoc when its last word starts with `<<` and goes on after it;
what follows `<<` is the marker.  The lines below are the body, without the marker if they end in
it.
-/

namespace TopicShell.Line.Heredoc

open TopicShell.Text

/-- The first line of a text, and the rest if a line feed ends the first line. -/
def cutLine : List Char → List Char × Option (List Char)
  | [] => ([], none)
  | c :: rest =>
    if c = '\n' then ([], some rest)
    else
      let (line, below) := cutLine rest
      (c :: line, below)

/-- The opening of a heredoc in one line: what stands before it, without one blank character next
to the marker, and the marker. -/
def opening? (line : List Char) : Option (List Char × List Char) :=
  let back := trimLeft isBlank line.reverse
  let word := (back.takeWhile (!isBlank ·)).reverse
  let before := ((back.dropWhile (!isBlank ·)).drop 1).reverse
  match word with
  | '<' :: '<' :: c :: marker => some (before, c :: marker)
  | _ => none

/-- The marker that the first line of a text opens a heredoc with. -/
def marker? (text : String) : Option String :=
  (opening? (cutLine text.toList).1).map fun o => String.ofList o.2

/-- A body without the marker that ends it. -/
def dropMarker (marker body : List Char) : List Char :=
  if marker.reverse.isPrefixOf body.reverse then body.take (body.length - marker.length) else body

/-- A text as the part before the heredoc and the body of the heredoc, if it has one. -/
def split (text : List Char) : List Char × Option (List Char) :=
  match cutLine text with
  | (line, some below) =>
    match opening? line with
    | some (before, marker) => (before, some (dropMarker marker below))
    | none => (text, none)
  | (_, none) => (text, none)

/-- `split` on strings. -/
def splitText (text : String) : String × Option String :=
  let (head, body) := split text.toList
  (String.ofList head, body.map String.ofList)

example : opening? ['a', ' ', '<', '<', 'E', ' '] = some (['a'], ['E']) := by decide
example : opening? ['a', '<', '<', 'E'] = none := by decide
example : split ['a', ' ', '<', '<', 'E', '\n', 'x', 'E'] = (['a'], some ['x']) := by decide

end TopicShell.Line.Heredoc
