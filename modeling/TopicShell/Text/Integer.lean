import TopicShell.Text.Blank
import TopicShell.Text.Digit

/-!
# Integers as text

White space around the number, a sign and single underscores between digits are allowed, digits of
every script count, and a number of more than `digitLimit` digits is refused.  `value` is the value
of a digit string; `readDigits` splits an underscored number into its digits.
-/

namespace TopicShell.Text.Integer

/-- The longest number that is read, in digits. -/
def digitLimit : Nat := 4300

def value (digits : List Nat) : Nat :=
  digits.foldl (fun n d => 10 * n + d) 0

theorem value_append_one (ds : List Nat) (d : Nat) : value (ds ++ [d]) = 10 * value ds + d := by
  simp [value]

/-- Digits with single underscores between them; the flag tells whether a digit came right before. -/
def readDigits (digit? : Char → Option Nat) : Bool → List Char → Option (List Nat)
  | after, [] => if after then some [] else none
  | after, c :: rest =>
    match digit? c with
    | some d => (readDigits digit? true rest).map (d :: ·)
    | none => if c = '_' && after then readDigits digit? false rest else none

def signOf : List Char → Bool × List Char
  | '-' :: rest => (true, rest)
  | '+' :: rest => (false, rest)
  | rest => (false, rest)

def signed (negative : Bool) (n : Nat) : Int :=
  if negative then -(n : Int) else n

/-- The number a text stands for, if it is one. -/
def read? (s : String) : Option Int :=
  let (negative, digits) := signOf (trim isWhite s.toList)
  match readDigits digitValue? false digits with
  | some ds => if ds.length ≤ digitLimit then some (signed negative (value ds)) else none
  | none => none

/-- Decimal text of a natural number. -/
def ofNat (n : Nat) : List Char :=
  Nat.toDigits 10 n

example : readDigits digitValue? false ['1', '_', '0'] = some [1, 0] := by decide
example : readDigits digitValue? false ['1', '_', '_', '0'] = none := by decide
example : readDigits digitValue? false [] = none := by decide

end TopicShell.Text.Integer
