import TopicShell.Number.Real
import TopicShell.Text.Literal

/-!
# Values of a template

What expressions evaluate to.  A name without a value is a value of its own that remembers why it is
missing; most uses of it fail with that reason.  Namespaces and routines are numbers that the
renderer looks up, so that two mentions share one object.
-/

namespace TopicShell.Template

open TopicShell.Number

/-- Why there is no value. -/
inductive Absence where
  | name (name : String)
  | attribute (owner name : String)
  | element (owner index : String)
  | hint (text : String)
  deriving DecidableEq

def Absence.message : Absence → String
  | name n => Text.Literal.ofText n ++ " is undefined"
  | .attribute owner n => Text.Literal.ofText owner ++ " has no attribute " ++ Text.Literal.ofText n
  | element owner i => owner ++ " has no element " ++ i
  | hint text => text

/-- The functions that every template can call. -/
inductive Builtin where
  | exec
  | log
  | range
  | dict
  | space
  deriving DecidableEq

inductive Value where
  | undefined (why : Absence)
  | none
  | bool (b : Bool)
  | int (n : Int)
  | real (x : Float)
  | text (s : String)
  | list (items : List Value)
  | tuple (items : List Value)
  | dict (entries : List (Value × Value))
  | range (start stop step : Int)
  | space (number : Nat)
  | routine (number : Nat) (name : String)
  | builtin (f : Builtin)
  | method (subject : Value) (name : String)
  /-- A loop at the item with an index. -/
  | loop (index : Nat) (items : List Value)

namespace Value

/-- The name of the type, as messages give it. -/
def typeName : Value → String
  | undefined _ => "Undefined"
  | none => "NoneType"
  | bool _ => "bool"
  | int _ => "int"
  | real _ => "float"
  | text _ => "str"
  | list _ => "list"
  | tuple _ => "tuple"
  | dict _ => "dict"
  | range _ _ _ => "range"
  | space _ => "Namespace"
  | routine _ _ => "Macro"
  | builtin .exec | builtin .log => "method"
  | builtin _ => "type"
  | method _ _ => "builtin_function_or_method"
  | loop _ _ => "LoopContext"

/-- What a message about a missing part calls the value. -/
def ownerName (v : Value) : String :=
  match v with
  | none => "None"
  | space _ => "jinja2.utils.Namespace object"
  | routine _ _ => "jinja2.runtime.Macro object"
  | loop _ _ => "jinja2.runtime.LoopContext object"
  | v => v.typeName ++ " object"

/-! ## Text -/

def intText (n : Int) : String :=
  toString n

def commas (parts : List String) : String :=
  ", ".intercalate parts

mutual

/-- A value as it is written inside a list. -/
def literal : Value → String
  | undefined _ => "Undefined"
  | none => "None"
  | bool true => "True"
  | bool false => "False"
  | int n => intText n
  | real x => realText x
  | text s => Text.Literal.ofText s
  | list items => "[" ++ commas (literals items) ++ "]"
  | tuple [v] => "(" ++ v.literal ++ ",)"
  | tuple items => "(" ++ commas (literals items) ++ ")"
  | dict entries => "\x7b" ++ commas (entryLiterals entries) ++ "\x7d"
  | range start stop step =>
    "range(" ++ commas ([start, stop] ++ (if step = 1 then [] else [step]) |>.map intText) ++ ")"
  | space _ => "<Namespace>"
  | routine _ name => "<Macro " ++ Text.Literal.ofText name ++ ">"
  | builtin _ => "<function>"
  | method _ name => "<built-in method " ++ name ++ ">"
  | loop i items => "<LoopContext " ++ toString (i + 1) ++ "/" ++ toString items.length ++ ">"

def literals : List Value → List String
  | [] => []
  | v :: vs => v.literal :: literals vs

def entryLiterals : List (Value × Value) → List String
  | [] => []
  | (k, v) :: rest => (k.literal ++ ": " ++ v.literal) :: entryLiterals rest

end

/-- A value as it is printed. -/
def toText : Value → String
  | undefined _ => ""
  | text s => s
  | v => v.literal

/-! ## Views -/

/-- The numbers of a range. -/
def rangeItems (start stop step : Int) : List Int :=
  let count :=
    if 0 < step then (stop - start + step - 1).toNat / step.toNat
    else if step < 0 then (start - stop - step - 1).toNat / (-step).toNat
    else 0
  (List.range count).map fun (i : Nat) => start + i * step

def isTrue : Value → Bool
  | undefined _ | none => false
  | bool b => b
  | int n => n ≠ 0
  | real x => x != 0
  | text s => !s.isEmpty
  | list items | tuple items => !items.isEmpty
  | dict entries => !entries.isEmpty
  | range start stop step => !(rangeItems start stop step).isEmpty
  | _ => true

/-- The items that a loop over the value visits, if there can be a loop over it. -/
def items? : Value → Option (List Value)
  | undefined _ => some []
  | text s => some (s.toList.map fun c => text c.toString)
  | list items | tuple items => some items
  | dict entries => some (entries.map Prod.fst)
  | range start stop step => some ((rangeItems start stop step).map int)
  | _ => Option.none

/-- The number a value stands for in arithmetic. -/
def int? : Value → Option Int
  | bool b => some (if b then 1 else 0)
  | int n => some n
  | _ => Option.none

def isNumber : Value → Bool
  | bool _ | int _ | real _ => true
  | _ => false

/-! ## Equality and order -/

/-- The order of an integer and a double, by their exact values. -/
def compareMixed (n : Int) (x : Float) : Option Ordering :=
  match realParts x with
  | .nan => Option.none
  | .infinite negative => some (if negative then .gt else .lt)
  | _ => (exactValue? x).map fun (num, den) => compare (n * den) num

/-- The order of two numbers, if both are numbers and none is missing. -/
def compareNumbers : Value → Value → Option Ordering
  | real x, real y => if x < y then some .lt else if x == y then some .eq else if y < x then some .gt else Option.none
  | real x, b => b.int?.bind fun n => (compareMixed n x).map Ordering.swap
  | a, real y => a.int?.bind fun n => compareMixed n y
  | a, b => a.int?.bind fun m => b.int?.map fun n => compare m n

mutual

/-- Two values are equal; numbers of different types may be. -/
def eq : Value → Value → Bool
  | undefined _, undefined _ => true
  | none, none => true
  | text s, text t => s == t
  | list xs, list ys => eqAll xs ys
  | tuple xs, tuple ys => eqAll xs ys
  | dict xs, dict ys => xs.length == ys.length && eqEntries xs ys
  | range a b c, range a' b' c' => rangeItems a b c == rangeItems a' b' c'
  | space i, space j => i == j
  | routine i _, routine j _ => i == j
  | builtin f, builtin g => f == g
  | a, b => compareNumbers a b == some .eq

def eqAll : List Value → List Value → Bool
  | [], [] => true
  | x :: xs, y :: ys => x.eq y && eqAll xs ys
  | _, _ => false

/-- Every entry of the first has an equal one in the second. -/
def eqEntries : List (Value × Value) → List (Value × Value) → Bool
  | [], _ => true
  | (k, v) :: rest, ys => (ys.any fun e => k.eq e.1 && v.eq e.2) && eqEntries rest ys

end

mutual

/-- The type that keeps a value from being a key, if there is one. -/
def unhashable? : Value → Option String
  | list _ => some "list"
  | dict _ => some "dict"
  | tuple items => unhashableIn? items
  | _ => Option.none

def unhashableIn? : List Value → Option String
  | [] => Option.none
  | v :: vs => v.unhashable? <|> unhashableIn? vs

end

/-- The entry of a key. -/
def valueOf? (entries : List (Value × Value)) (key : Value) : Option Value :=
  (entries.find? fun e => e.1.eq key).map Prod.snd

/-- Gives a key a value, at the place it already has. -/
def putEntry (key value : Value) : List (Value × Value) → List (Value × Value)
  | [] => [(key, value)]
  | (k, v) :: rest =>
    if k.eq key then (k, value) :: rest else (k, v) :: putEntry key value rest

end Value

end TopicShell.Template
