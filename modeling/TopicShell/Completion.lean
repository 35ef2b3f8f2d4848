import TopicShell.Command
import TopicShell.Text.Pieces

/-!
# Completion

The first word completes to a macro or a built-in command, later words to flags, levels of service
or subscribed topics.  Words are cut at single spaces.
-/

namespace TopicShell

/-- A proposed word and how many characters before the cursor it replaces. -/
structure Completion where
  text : String
  replaces : Nat
  deriving DecidableEq

namespace Completion

/-- What may stand after the words `command … previous`. -/
def arguments (topics : List String) (command previous : String) : List String :=
  match Builtin.ofWord? command with
  | some .pub => if previous == "-q" then ["0", "1", "2"] else ["-q", "-r"]
  | some .sub => if previous == "-q" then ["0", "1", "2"] else ["-q"]
  | some .unsub => topics
  | _ => []

/-- Names in rising order of their characters. -/
def sorted (names : List String) : List String :=
  names.mergeSort fun a b => !decide (b < a)

/-- The completions at the end of a text. -/
def complete (macroNames topics : List String) (text : List Char) : List Completion :=
  let words := Text.pieces ' ' text
  let current := words.getLast?.getD []
  let candidates : List String :=
    match words.map String.ofList with
    | [] | [_] => sorted macroNames ++ Builtin.all.map Builtin.word
    | command :: rest => arguments topics command ((command :: rest).dropLast.getLast?.getD "")
  (candidates.filter fun c => current.isPrefixOf c.toList).map (⟨·, current.length⟩)

end Completion

end TopicShell
