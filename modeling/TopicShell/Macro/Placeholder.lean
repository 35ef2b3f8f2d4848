import TopicShell.Text.Integer
import TopicShell.Text.Pieces

/-!
# Placeholders

`$1`, `$2`, … in a command stand for arguments, and `\$` for a dollar sign.  `fill` protects the
escaped dollars by a mark, puts the arguments in, and turns the marks into dollars.
-/

namespace TopicShell.Macro.Placeholder

/-- A number with more digits than can be read. -/
structure TooLong where
  digits : Nat
  deriving DecidableEq

def TooLong.message (e : TooLong) : String :=
  "Exceeds the limit (4300 digits) for integer string conversion: value has "
    ++ toString e.digits
    ++ " digits; use sys.set_int_max_str_digits() to increase the limit"

def escapedDollar : List Char := ['\\', '$']

/-- Stands for a dollar while the arguments are put in. -/
def dollarMark : List Char :=
  "\x00DOLLAR_ESCAPE\x00".toList

/-- The value of the digits after a dollar. -/
def indexOf (digits : List Nat) : Except TooLong Nat :=
  if digits.length ≤ Text.Integer.digitLimit then .ok (Text.Integer.value digits)
  else .error ⟨digits.length⟩

/-- The digits at the front of a text. -/
def digitsAt : List Char → List Nat
  | [] => []
  | c :: rest =>
    match Text.digitValue? c with
    | some d => d :: digitsAt rest
    | none => []

/-- Puts the values of the arguments in; `skip` characters belong to a placeholder before. -/
def substituteFrom (value? : Nat → Option (List Char)) : Nat → List Char → Except TooLong (List Char)
  | _, [] => .ok []
  | skip + 1, _ :: rest => substituteFrom value? skip rest
  | 0, c :: rest => do
    let digits := if c = '$' then digitsAt rest else []
    if digits.isEmpty then
      return c :: (← substituteFrom value? 0 rest)
    else
      let found := (value? (← indexOf digits)).getD (c :: rest.take digits.length)
      return found ++ (← substituteFrom value? digits.length rest)

def substitute (value? : Nat → Option (List Char)) (cs : List Char) : Except TooLong (List Char) :=
  substituteFrom value? 0 cs

/-- A command with its placeholders filled. -/
def fill (value? : Nat → Option (List Char)) (command : List Char) : Except TooLong (List Char) := do
  let filled ← substitute value? (Text.replace escapedDollar dollarMark command)
  return Text.replace dollarMark ['$'] filled

/-- The values of the arguments, counted from one. -/
def valueOf? (values : List String) (index : Nat) : Option (List Char) :=
  match index with
  | 0 => none
  | i + 1 => (values[i]?).map String.toList

def fillText (values : List String) (command : String) : Except TooLong String :=
  (fill (valueOf? values) command.toList).map String.ofList

example : (fillText ["a", "$1"] "x$2 $3\\$1").toOption = some "x$1 $3$1" := by decide +kernel

end TopicShell.Macro.Placeholder
