import TopicShell.Data.Datum
import TopicShell.Text.Blank
import TopicShell.Text.Integer

/-!
# Checking data

A check turns a datum into a value or tells what is wrong with it and where.  Checks are lenient about
numbers and truth values that are written as text, and a check of several parts reports the faults of
all of them.
-/

namespace TopicShell.Settings

inductive IssueKind where
  | notText
  | notList
  | notDict
  | notRecord
  | notTruth
  | badTruth
  | notInteger
  | badInteger
  | longInteger
  | fractional
  | infinite
  | tooSmall
  | tooLarge
  | notPath
  deriving DecidableEq

/-- The short name of a kind of issue. -/
def IssueKind.code : IssueKind → String
  | notText => "string_type"
  | notList => "list_type"
  | notDict => "dict_type"
  | notRecord => "model_type"
  | notTruth => "bool_type"
  | badTruth => "bool_parsing"
  | notInteger => "int_type"
  | badInteger => "int_parsing"
  | longInteger => "int_parsing_size"
  | fractional => "int_from_float"
  | infinite => "finite_number"
  | tooSmall => "greater_than_equal"
  | tooLarge => "less_than_equal"
  | notPath => "path_type"

/-- Something wrong, and the way to it from the outside in. -/
structure Issue where
  location : List String
  kind : IssueKind
  deriving DecidableEq

/-- A value, or all that is wrong. -/
inductive Checked (α : Type) where
  | valid (value : α)
  | invalid (issues : List Issue)

namespace Checked

def map {α β : Type} (f : α → β) : Checked α → Checked β
  | valid a => valid (f a)
  | invalid is => invalid is

def both {α β : Type} : Checked (α → β) → Checked α → Checked β
  | valid f, valid a => valid (f a)
  | valid _, invalid is => invalid is
  | invalid is, valid _ => invalid is
  | invalid is, invalid js => invalid (is ++ js)

instance : Applicative Checked where
  map := map
  pure := valid
  seq f a := both f (a ())

def issue {α : Type} (kind : IssueKind) : Checked α :=
  invalid [⟨[], kind⟩]

/-- A check of something that is found under a name. -/
def under {α : Type} (part : String) : Checked α → Checked α
  | valid a => valid a
  | invalid is => invalid (is.map fun i => { i with location := part :: i.location })

/-- A check of what another check allows. -/
def also {α : Type} (c : Checked α) (check : α → Checked α) : Checked α :=
  match c with
  | valid a => check a
  | invalid is => invalid is

def all {α : Type} : List (Checked α) → Checked (List α)
  | [] => valid []
  | c :: rest => both (c.map List.cons) (all rest)

end Checked

/-! ## Kinds of values -/

namespace Check

open Checked

def text : Datum → Checked String
  | .text s => valid s
  | _ => issue .notText

/-- Anything but nothing is checked. -/
def optional {α : Type} (check : Datum → Checked α) : Datum → Checked (Option α)
  | .null => valid none
  | d => (check d).map some

def numberedTexts : Nat → List Datum → List (Checked String)
  | _, [] => []
  | n, d :: rest => (text d).under (toString n) :: numberedTexts (n + 1) rest

def texts : Datum → Checked (List String)
  | .list items | .set items => all (numberedTexts 0 items)
  | _ => issue .notList

def trueWords : List String := ["1", "t", "true", "y", "yes", "on"]

def falseWords : List String := ["0", "f", "false", "n", "no", "off"]

def truthOfInt (n : Int) : Checked Bool :=
  if n = 1 then valid true else if n = 0 then valid false else issue .badTruth

/-- The integer that a real number is. -/
def wholeNumber? (x : Float) : Option Int :=
  (Number.exactValue? x).bind fun (n, d) => if n % d = 0 then some (n / d) else none

def truth : Datum → Checked Bool
  | .bool b => valid b
  | .int n => truthOfInt n
  | .real x =>
    match wholeNumber? x with
    | some n => truthOfInt n
    | none => issue .notTruth
  | .text s =>
    let word := String.ofList (s.toList.map Char.toLower)
    if trueWords.contains word then valid true
    else if falseWords.contains word then valid false
    else issue .badTruth
  | _ => issue .notTruth

/-- Digits with single underscores between them; a point with zeros behind it may follow. -/
def integerText? (s : String) : Option Int :=
  let (negative, cs) := Text.Integer.signOf (Text.trim Text.isWhite s.toList)
  let whole := cs.takeWhile (· ≠ '.')
  let isWhole := (cs.drop (whole.length + 1)).all (· = '0')
  match Text.Integer.readDigits Text.asciiDigit? false whole with
  | some ds => if isWhole then some (Text.Integer.signed negative (Text.Integer.value ds)) else none
  | none => none

/-- Real numbers from here on are not taken for integers. -/
def realLimit : Int := 0x8000000000000000

def integer : Datum → Checked Int
  | .bool b => valid (if b then 1 else 0)
  | .int n => valid n
  | .real x =>
    match Number.exactValue? x with
    | none => issue .infinite
    | some _ =>
      match wholeNumber? x with
      | none => issue .fractional
      | some n => if n.natAbs < realLimit then valid n else issue .longInteger
  | .text s =>
    if Text.Integer.digitLimit < s.utf8ByteSize then issue .longInteger
    else
      match integerText? s with
      | some n => valid n
      | none => issue .badInteger
  | _ => issue .notInteger

/-- A level of service: 0, 1 or 2. -/
def quality (d : Datum) : Checked Int :=
  (integer d).also fun n => if n < 0 then issue .tooSmall else if 2 < n then issue .tooLarge else valid n

/-! ## Records -/

/-- The value of a field of a record, or its default. -/
def field {α : Type} (entries : List Datum.Entry) (name : String) (default : α)
    (check : Datum → Checked α) : Checked α :=
  match Datum.valueOf? (.text name) entries with
  | some d => (check d).under name
  | none => valid default

/-- A key as a part of a location. -/
def keyPart : Datum → String
  | .text s => s
  | .bool b => if b then "1" else "0"
  | d => d.literal

/-- A mapping from names to values of one kind. -/
def named {α : Type} (check : Datum → Checked α) : Datum → Checked (List (String × α))
  | .dict entries => all (entries.map fun (key, d) =>
      both ((((text key).under "[key]").under (keyPart key)).map Prod.mk) ((check d).under (keyPart key)))
  | _ => issue .notDict

end Check

example : Check.integerText? " +1_0.00 " = some 10 ∧ Check.integerText? "1.5" = none := by decide +kernel

end TopicShell.Settings
