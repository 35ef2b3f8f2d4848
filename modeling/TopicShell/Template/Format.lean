import TopicShell.Number.Places
import TopicShell.Template.Fault
import TopicShell.Text.Escape

/-!
# Formatting with `%`

A format holds conversions: a percent sign, perhaps a key in brackets, flags, a width, a precision
and the character of the conversion.  Each takes the next of the values, or the value of its key.
-/

namespace TopicShell.Template

open TopicShell.Number

/-- The values that are still to be formatted; `checked` tells that all have to be taken. -/
structure Supply where
  values : List Value
  mapping : Option Value := none
  checked : Bool := true

namespace Supply

/-- A tuple supplies its items, any other value itself. -/
def ofValue (v : Value) : Supply :=
  match v with
  | .tuple items => { values := items }
  | .dict _ | .list _ | .range _ _ _ | .undefined _ =>
    { values := [v], mapping := some v, checked := false }
  | v => { values := [v] }

end Supply

abbrev Formatting := StateT Supply Result

/-- A conversion as it is written. -/
structure Conversion where
  left : Bool := false
  plus : Bool := false
  blank : Bool := false
  alternate : Bool := false
  zeros : Bool := false
  width : Nat := 0
  precision : Option Nat := none

namespace Formatting

def next : Formatting Value := do
  let s ← get
  match s.values with
  | v :: rest =>
    set { s with values := rest }
    return v
  | [] => throw (.mistyped .tooFewFormatted)

/-! ## Layout -/

def blanks (n : Nat) : List Char :=
  List.replicate n ' '

/-- Fills up to the width; zeros stand after the sign. -/
def layout (c : Conversion) (zeros : Bool) (sign digits : List Char) : List Char :=
  let free := c.width - (sign.length + digits.length)
  if c.left then sign ++ digits ++ blanks free
  else if zeros then sign ++ List.replicate free '0' ++ digits
  else blanks free ++ sign ++ digits

def signOf (c : Conversion) (negative : Bool) : List Char :=
  if negative then ['-'] else if c.plus then ['+'] else if c.blank then [' '] else []

def textOf (c : Conversion) (s : String) : List Char :=
  let cs := s.toList
  layout c false [] ((c.precision.map cs.take).getD cs)

/-! ## Integers -/

def tooLong (n : Int) : Bool :=
  14000 < n.natAbs.log2 && 4300 < (digitsOf n.natAbs).length

def integerText (c : Conversion) (conversion : Char) (n : Int) : Result (List Char) :=
  let (mark, digits) := match conversion with
    | 'o' => (['0', 'o'], Nat.toDigits 8 n.natAbs)
    | 'x' => (['0', 'x'], Nat.toDigits 16 n.natAbs)
    | 'X' => (['0', 'X'], (Nat.toDigits 16 n.natAbs).map Char.toUpper)
    | _ => ([], digitsOf n.natAbs)
  let digits := List.replicate ((c.precision.getD 0) - digits.length) '0' ++ digits
  let sign := signOf c (n < 0) ++ (if c.alternate then mark else [])
  if mark.isEmpty && tooLong n then Result.invalid .digits
  else .ok (layout c c.zeros sign digits)

def decimalOf (conversion : Char) (v : Value) : Result Int :=
  match v with
  | .undefined why => .error (.undefined why)
  | .real x =>
    match truncated? x with
    | some n => .ok n
    | none =>
      if x != x then .error (.overflow "cannot convert float NaN to integer")
      else .error (.overflow "cannot convert float infinity to integer")
  | v =>
    match v.int? with
    | some n => .ok n
    | none => Result.mistyped (.formatNumber conversion "a real number" v.typeName)

def wholeOf (conversion : Char) (v : Value) : Result Int :=
  match v.int? with
  | some n => .ok n
  | none => Result.mistyped (.formatNumber conversion "an integer" v.typeName)

/-! ## Doubles -/

def realOf (v : Value) : Result Float :=
  match v with
  | .undefined why => .error (.undefined why)
  | .real x => .ok x
  | v =>
    match v.int? with
    | some n => .ok (realOfInt n)
    | none => Result.mistyped (.formatReal v.typeName)

def magnitudeText (c : Conversion) (conversion : Char) (r : Ratio) : List Char :=
  let places := c.precision.getD 6
  let mark := if conversion.isUpper then 'E' else 'e'
  match conversion.toLower with
  | 'e' => scientific c.alternate mark places r
  | 'f' => fixed c.alternate places r
  | _ => general c.alternate mark places r

def realText (c : Conversion) (conversion : Char) (x : Float) : List Char :=
  let word (negative : Bool) (cs : List Char) : List Char :=
    layout c c.zeros (signOf c negative) (if conversion.isUpper then cs.map Char.toUpper else cs)
  match realParts x with
  | .nan => word false ['n', 'a', 'n']
  | .infinite negative => word negative ['i', 'n', 'f']
  | .zero negative => layout c c.zeros (signOf c negative) (magnitudeText c conversion ⟨0, 1⟩)
  | .finite negative b => layout c c.zeros (signOf c negative) (magnitudeText c conversion b.ratio)

/-! ## Other conversions -/

def charText (c : Conversion) (v : Value) : Result (List Char) :=
  match v with
  | .text s =>
    match s.toList with
    | [x] => .ok (layout c false [] [x])
    | _ => Result.mistyped .formatChar
  | v =>
    match v.int? with
    | some n =>
      if 0 ≤ n && n < 0x110000 then .ok (layout c false [] [Char.ofNat n.toNat])
      else .error (.overflow "%c arg not in range(0x110000)")
    | none => Result.mistyped .formatChar

/-- A literal with ASCII characters only. -/
def asciiLiteral (v : Value) : String :=
  String.ofList (Text.Escape.spellOut 0x80 v.literal.toList)

/-- Writes a value by a conversion; `index` is the place of its character in the format. -/
def convert (c : Conversion) (conversion : Char) (index : Nat) (v : Value) : Result (List Char) :=
  if conversion = 's' then .ok (textOf c v.toText)
  else if conversion = 'r' then .ok (textOf c v.literal)
  else if conversion = 'a' then .ok (textOf c (asciiLiteral v))
  else if ['d', 'i', 'u'].contains conversion then do
    integerText c conversion (← decimalOf conversion v)
  else if ['o', 'x', 'X'].contains conversion then do
    integerText c conversion (← wholeOf conversion v)
  else if ['e', 'E', 'f', 'F', 'g', 'G'].contains conversion then do
    return realText c conversion (← realOf v)
  else if conversion = 'c' then charText c v
  else Result.invalid (.conversion conversion index)

/-! ## Reading the format -/

def flags : Conversion → List Char → Conversion × List Char
  | c, '-' :: rest => flags { c with left := true } rest
  | c, '+' :: rest => flags { c with plus := true } rest
  | c, ' ' :: rest => flags { c with blank := true } rest
  | c, '#' :: rest => flags { c with alternate := true } rest
  | c, '0' :: rest => flags { c with zeros := true } rest
  | c, rest => (c, rest)

def number (cs : List Char) : Nat × List Char :=
  (Text.Integer.value ((cs.takeWhile Char.isDigit).map fun d => d.toNat - 48), cs.dropWhile Char.isDigit)

/-- A number that may come from the values. -/
def size (cs : List Char) : Formatting (Int × List Char) := do
  match cs with
  | '*' :: rest =>
    let v ← next
    match v.int? with
    | some n => return (n, rest)
    | none => throw (.mistyped .formatWidth)
  | cs =>
    let (n, rest) := number cs
    return (n, rest)

def precision (c : Conversion) (cs : List Char) : Formatting (Conversion × List Char) := do
  match cs with
  | '.' :: rest =>
    let (n, rest) ← size rest
    return ({ c with precision := some n.toNat }, rest)
  | cs => return (c, cs)

def dropLength : List Char → List Char
  | c :: rest => if c = 'h' || c = 'l' || c = 'L' then rest else c :: rest
  | [] => []

/-- The key of a conversion and what follows; brackets inside the key are balanced. -/
def key? : Nat → List Char → Option (List Char × List Char)
  | _, [] => none
  | depth, c :: rest =>
    if c = ')' then
      match depth with
      | 0 => some ([], rest)
      | depth + 1 => (key? depth rest).map fun r => (c :: r.1, r.2)
    else (key? (if c = '(' then depth + 1 else depth) rest).map fun r => (c :: r.1, r.2)

/-- Makes the value of a key the next value. -/
def selectKey (key : String) : Formatting Unit := do
  match (← get).mapping with
  | none => throw (.mistyped .noMapping)
  | some (.undefined why) => throw (.undefined why)
  | some (.dict entries) =>
    match Value.valueOf? entries (.text key) with
    | some v => modify fun s => { s with values := [v] }
    | none => throw (.key (Text.Literal.ofText key))
  | some v =>
    throw (.mistyped (.argument (v.typeName ++ " indices must be integers or slices, not str")))

/-- One conversion after its percent sign. -/
def conversion (total : Nat) (cs : List Char) : Formatting (List Char × List Char) := do
  let cs ← match cs with
    | '(' :: rest => do
      if (← get).mapping.isNone then throw (.mistyped .noMapping)
      match key? 0 rest with
      | some (key, after) => selectKey (String.ofList key); pure after
      | none => throw (.invalid .incompleteKey)
    | cs => pure cs
  let (c, cs) := flags {} cs
  let (width, cs) ← size cs
  let c := { c with width := width.natAbs, left := c.left || width < 0 }
  let (c, cs) ← precision c cs
  match dropLength cs with
  | [] => throw (.invalid .incompleteFormat)
  | k :: rest =>
    let v ← next
    return (← convert c k (total - rest.length - 1) v, rest)

def formatFrom (total : Nat) : Nat → List Char → Formatting (List Char)
  | 0, _ => pure []
  | _, [] => pure []
  | fuel + 1, '%' :: '%' :: rest => do return '%' :: (← formatFrom total fuel rest)
  | fuel + 1, '%' :: rest => do
    let (text, rest) ← conversion total rest
    return text ++ (← formatFrom total fuel rest)
  | fuel + 1, c :: rest => do return c :: (← formatFrom total fuel rest)

end Formatting

/-- Formats values by a format. -/
def format (fmt : String) (values : Value) : Result String := do
  let cs := fmt.toList
  let (text, rest) ← (Formatting.formatFrom cs.length cs.length cs).run (Supply.ofValue values)
  if rest.checked && !rest.values.isEmpty then Result.mistyped .tooManyFormatted
  else return String.ofList text

end TopicShell.Template
