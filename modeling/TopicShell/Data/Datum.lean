import TopicShell.Number.Real
import TopicShell.Text.Literal

/-!
# Data

`Datum` is what a file, a variable or a keyword gives for a setting, before it is checked.  A mapping
keeps the order in which its keys first came; two numbers are one key if they are equal, whatever
their types.  `overlay` puts one datum over another: mappings are joined key by key, and all else is
replaced.
-/

namespace TopicShell

open Number

inductive Datum where
  | null
  | bool (b : Bool)
  | int (n : Int)
  | real (x : Float)
  | text (s : String)
  | date (year month day : Nat)
  /-- A point in time, by its text. -/
  | moment (text : String)
  | list (items : List Datum)
  | dict (entries : List (Datum × Datum))
  | set (items : List Datum)
  /-- A datum of another kind, by its text; `isGiven` tells whether it stands for something. -/
  | other (written : String) (isGiven : Bool)

instance : Inhabited Datum := ⟨.null⟩

namespace Datum

/-- An empty or zero datum stands for nothing. -/
def isTrue : Datum → Bool
  | null => false
  | bool b => b
  | int n => n ≠ 0
  | real x => x != 0
  | text s => !s.isEmpty
  | date .. | moment _ => true
  | list items | set items => !items.isEmpty
  | dict entries => !entries.isEmpty
  | other _ isGiven => isGiven

/-! ## Keys -/

/-- The number that a datum is, as a quotient. -/
def quotient? : Datum → Option (Int × Nat)
  | bool b => some (if b then 1 else 0, 1)
  | int n => some (n, 1)
  | real x => exactValue? x
  | _ => none

/-- Two keys are the same. -/
def isSameKey : Datum → Datum → Bool
  | null, null => true
  | text s, text t => s == t
  | date y m d, date y' m' d' => y == y' && m == m' && d == d'
  | moment s, moment t => s == t
  | real x, real y => x == y
  | a, b =>
    match a.quotient?, b.quotient? with
    | some (n, d), some (n', d') => n * d' == n' * d
    | _, _ => false

/-- The datum can be a key. -/
def isKey : Datum → Bool
  | list _ | dict _ | set _ => false
  | _ => true

/-- An entry of a mapping. -/
abbrev Entry := Datum × Datum

def valueOf? (key : Datum) (entries : List Entry) : Option Datum :=
  (entries.find? fun e => e.1.isSameKey key).map Prod.snd

/-- Gives a key a value, at the place it already has or at the end. -/
def putEntry (key value : Datum) : List Entry → List Entry
  | [] => [(key, value)]
  | (k, v) :: rest =>
    if k.isSameKey key then (k, value) :: rest else (k, v) :: putEntry key value rest

/-- The entries in the order of their keys' first places, each with its last value. -/
def ofEntries (entries : List Entry) : List Entry :=
  entries.foldl (fun es e => putEntry e.1 e.2 es) []

/-! ## Text -/

def twoDigits (n : Nat) : String :=
  (if n < 10 then "0" else "") ++ toString n

def dateText (year month day : Nat) : String :=
  String.ofList (List.replicate (4 - (digitsOf year).length) '0') ++ toString year
    ++ "-" ++ twoDigits month ++ "-" ++ twoDigits day

def commas (parts : List String) : String :=
  ", ".intercalate parts

mutual

/-- A datum as it is written inside another one. -/
def literal : Datum → String
  | null => "None"
  | bool true => "True"
  | bool false => "False"
  | int n => toString n
  | real x => realText x
  | text s => Text.Literal.ofText s
  | date y m d => "datetime.date(" ++ commas ([y, m, d].map toString) ++ ")"
  | moment s => "datetime.datetime(" ++ s ++ ")"
  | list items => "[" ++ commas (literals items) ++ "]"
  | dict entries => "\x7b" ++ commas (entryLiterals entries) ++ "\x7d"
  | set items => "\x7b" ++ commas (literals items) ++ "\x7d"
  | other written _ => written

def literals : List Datum → List String
  | [] => []
  | d :: rest => d.literal :: literals rest

def entryLiterals : List Entry → List String
  | [] => []
  | (k, v) :: rest => (k.literal ++ ": " ++ v.literal) :: entryLiterals rest

end

/-- A datum as a name. -/
def toText : Datum → String
  | text s => s
  | date y m d => dateText y m d
  | moment s => s
  | d => d.literal

/-! ## Laying one datum over another -/

mutual

def overlay (low : Datum) : Datum → Datum
  | dict entries =>
    match low with
    | dict below => dict (overlayEntries below entries)
    | _ => dict entries
  | high => high

def overlayEntries (below : List Entry) : List Entry → List Entry
  | [] => below
  | (k, v) :: rest =>
    let value := match valueOf? k below with
      | some old => overlay old v
      | none => v
    overlayEntries (putEntry k value below) rest

end

end Datum

end TopicShell
