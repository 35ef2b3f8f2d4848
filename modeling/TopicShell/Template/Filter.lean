import TopicShell.Number.Real
import TopicShell.Template.Arithmetic
import TopicShell.Template.Method

/-!
# Filters and tests

A filter is a function of a value and further arguments, a test one that answers yes or no.  Both are
closed vocabularies.
-/

namespace TopicShell.Template

open TopicShell.Number

inductive Filter where
  | trim
  | upper
  | lower
  | capitalize
  | title
  | length
  | reverse
  | replace
  | first
  | last
  | default
  | join
  | int
  | float
  | string
  | list
  | abs
  deriving DecidableEq

namespace Filter

/-- All filters under all their names. -/
def named : List (String × Filter) := [
  ("trim", trim), ("upper", upper), ("lower", lower), ("capitalize", capitalize), ("title", title),
  ("length", length), ("count", length), ("reverse", reverse), ("replace", replace),
  ("first", first), ("last", last), ("default", default), ("d", default), ("join", join),
  ("int", int), ("float", float), ("string", string), ("list", list), ("abs", abs)]

def ofName? (name : String) : Option Filter :=
  named.lookup name

def signature (f : Filter) : Signature :=
  let value : Parameter := ⟨"value", none⟩
  let s : Parameter := ⟨"s", none⟩
  match f with
  | trim => { function := "do_trim", parameters := [value, ⟨"chars", some .none⟩] }
  | upper => { function := "do_upper", parameters := [s] }
  | lower => { function := "do_lower", parameters := [s] }
  | capitalize => { function := "do_capitalize", parameters := [s] }
  | title => { function := "do_title", parameters := [s] }
  | length => { function := "len", parameters := [value] }
  | reverse => { function := "do_reverse", parameters := [value] }
  | replace =>
    { function := "do_replace"
      parameters := [s, ⟨"old", none⟩, ⟨"new", none⟩, ⟨"count", some .none⟩]
      hidden := 1 }
  | first => { function := "sync_do_first", parameters := [⟨"seq", none⟩], hidden := 1 }
  | last => { function := "do_last", parameters := [⟨"seq", none⟩], hidden := 1 }
  | default =>
    { function := "do_default"
      parameters := [value, ⟨"default_value", some (.text "")⟩, ⟨"boolean", some (.bool false)⟩] }
  | join =>
    { function := "sync_do_join"
      parameters := [value, ⟨"d", some (.text "")⟩, ⟨"attribute", some .none⟩]
      hidden := 1 }
  | int =>
    { function := "do_int"
      parameters := [value, ⟨"default", some (.int 0)⟩, ⟨"base", some (.int 10)⟩] }
  | float => { function := "do_float", parameters := [value, ⟨"default", some (.real 0.0)⟩] }
  | string => { function := "soft_str", parameters := [s] }
  | list => { function := "sync_do_list", parameters := [value] }
  | abs => { function := "abs", parameters := [value] }

/-! ## Texts -/

/-- The character starts a new word after itself. -/
def bounds (c : Char) : Bool :=
  c = '-' || c = '(' || c = '\x7b' || c = '[' || c = '<' || Text.isBlank c

/-- Each word in lower case with an upper first character; `atStart` tells that a word starts here. -/
def titleFrom : Bool → List Char → List (List Char) → List (List Char)
  | _, [], done => done
  | atStart, c :: rest, done =>
    if bounds c then titleFrom true rest (done ++ [[c]])
    else if atStart then titleFrom false rest (done ++ [[c]])
    else
      match done.getLast? with
      | some word => titleFrom false rest (done.dropLast ++ [word ++ [c]])
      | none => titleFrom false rest [[c]]

def titleWord : List Char → List Char
  | [] => []
  | c :: rest => Text.upper [c] ++ Text.lower rest

def titleText (s : String) : String :=
  String.ofList ((titleFrom true s.toList []).flatMap titleWord)

/-! ## Numbers -/

/-- The integer of a number or a text, if there is one. -/
def wholeNumber? (base : Int) (v : Value) : Option Int :=
  match v with
  | .text s => if base = 10 then Text.Integer.read? s else none
  | .real x => truncated? x
  | v => v.int?

/-- The double of a number or a text, if there is one. -/
def realNumber? (v : Value) : Option Float :=
  match v with
  | .text s => readReal? s
  | .real x => some x
  | v => v.int?.map realOfInt

def toInt (v fallback base : Value) : Result Value :=
  match v with
  | .undefined why => .error (.undefined why)
  | v =>
    match wholeNumber? ((base.int?).getD 10) v with
    | some n => .ok (.int n)
    | none => .ok (((realNumber? v).bind truncated?).elim fallback .int)

def toFloat (v fallback : Value) : Result Value :=
  match v with
  | .undefined why => .error (.undefined why)
  | v => .ok ((realNumber? v).elim fallback .real)

/-! ## Sequences -/

def itemsOf (v : Value) : Result (List Value) :=
  match v.items? with
  | some items => .ok items
  | none => Result.mistyped (.notIterable v.typeName)

def reversed (v : Value) : Result Value :=
  match v with
  | .text s => .ok (.text (String.ofList s.toList.reverse))
  | v =>
    match v.items? with
    | some items => .ok (.list items.reverse)
    | none => .error (.template "argument must be iterable")

def isMissing : Value → Bool
  | .undefined _ => true
  | _ => false

def apply (f : Filter) (args : List Value) : Result Value :=
  match f, args with
  | trim, [v, chars] => Method.strip "strip" v.toText.toList (some chars)
  | upper, [v] => .ok (.text (Text.upperText v.toText))
  | lower, [v] => .ok (.text (Text.lowerText v.toText))
  | capitalize, [v] => .ok (.text (Text.capitalizeText v.toText))
  | title, [v] => .ok (.text (titleText v.toText))
  | length, [v] => v.length.map fun n => .int n
  | reverse, [v] => reversed v
  | replace, [v, old, new, count] => do
    let most ← match count with
      | .none => pure none
      | c => Method.optionalCount (some c)
    return .text (String.ofList (replaceText old.toText.toList new.toText.toList most v.toText.toList))
  | first, [v] => do
    return ((← itemsOf v).head?).getD (.undefined (.hint "No first item, sequence was empty."))
  | last, [v] => do
    match v with
    | .int _ | .real _ | .bool _ | .none =>
      Result.mistyped (.argument ("'" ++ v.typeName ++ "' object is not reversible"))
    | v => return ((← itemsOf v).getLast?).getD (.undefined (.hint "No last item, sequence was empty."))
  | default, [v, other, boolean] =>
    .ok (if isMissing v || (boolean.isTrue && !v.isTrue) then other else v)
  | join, v :: d :: _ => do
    return .text (d.toText.intercalate ((← itemsOf v).map Value.toText))
  | int, [v, fallback, base] => toInt v fallback base
  | float, [v, fallback] => toFloat v fallback
  | string, [v] => .ok (.text v.toText)
  | list, [v] => (itemsOf v).map .list
  | abs, [v] =>
    match v with
    | .undefined why => .error (.undefined why)
    | .real x => .ok (.real x.abs)
    | v =>
      match v.int? with
      | some n => .ok (.int n.natAbs)
      | none => Result.mistyped (.argument ("bad operand type for abs(): '" ++ v.typeName ++ "'"))
  | _, _ => .ok .none

def call (f : Filter) (a : Arguments) : Result Value := do
  f.apply (← f.signature.bind a).1

end Filter

/-! ## Tests -/

inductive Test where
  | defined
  | undefined
  | string
  | none
  | boolean
  | integer
  | float
  | number
  | mapping
  | sequence
  | iterable
  | even
  | odd
  | compares (op : Comparison)
  deriving DecidableEq

namespace Test

def named : List (String × Test) := [
  ("defined", defined), ("undefined", undefined), ("string", string), ("none", none),
  ("boolean", boolean), ("integer", integer), ("float", float), ("number", number),
  ("mapping", mapping), ("sequence", sequence), ("iterable", iterable), ("even", even),
  ("odd", odd), ("eq", compares .eq), ("equalto", compares .eq), ("==", compares .eq),
  ("ne", compares .ne), ("!=", compares .ne), ("lt", compares .lt), ("lessthan", compares .lt),
  ("le", compares .le), ("gt", compares .gt), ("greaterthan", compares .gt), ("ge", compares .ge),
  ("in", compares .isIn)]

def ofName? (name : String) : Option Test :=
  named.lookup name

def isKind (t : Test) (v : Value) : Bool :=
  match t, v with
  | defined, .undefined _ => false
  | defined, _ => true
  | undefined, .undefined _ => true
  | string, .text _ => true
  | none, .none => true
  | boolean, .bool _ => true
  | integer, .int _ => true
  | float, .real _ => true
  | number, v => v.isNumber
  | mapping, .dict _ => true
  | sequence, .undefined _ => true
  | sequence, v => v.items?.isSome
  | iterable, v => v.items?.isSome
  | _, _ => false

/-- The remainder by two. -/
def parity (v : Value) : Result Value :=
  Value.operate .rem v (.int 2)

def holds (t : Test) (v : Value) (args : List Value) : Result Bool :=
  match t, args with
  | compares op, [w] => Value.compares op v w
  | even, [] => (parity v).map fun r => r.eq (.int 0)
  | odd, [] => (parity v).map fun r => r.eq (.int 1)
  | compares _, _ => Method.bad "comparison expected 2 arguments"
  | t, [] => .ok (isKind t v)
  | _, args =>
    Method.bad ("test takes 1 positional argument but " ++ toString (args.length + 1) ++ " were given")

end Test

end TopicShell.Template
