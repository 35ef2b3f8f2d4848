import TopicShell.Number.Real
import TopicShell.Text.Case
import TopicShell.Text.Escape
import TopicShell.Text.Literal
import TopicShell.Text.Pieces
import TopicShell.Yaml.Fault

/-!
# Tags, and what plain scalars mean

A tag tells what a node stands for.  A plain scalar has no tag of its own: `Tag.ofPlain` finds it by
the form of the text.  A number may have underscores anywhere behind its first digit, numbers to the
base sixty have colons, and an integer with a zero in front is octal; a real number has a point, and
its exponent a sign.
-/

namespace TopicShell.Yaml

open Text

inductive Tag where
  | null
  | bool
  | int
  | real
  | timestamp
  | text
  | list
  | dict
  | set
  /-- The key that merges other mappings into this one. -/
  | merge
  /-- The key for the main value of a mapping. -/
  | value
  | unknown
  deriving DecidableEq

namespace Tag

/-- The common start of the tags that are known. -/
def standard : String := "tag:yaml.org,2002:"

def names : List (String × Tag) := [
  ("null", .null), ("bool", .bool), ("int", .int), ("float", .real), ("timestamp", .timestamp),
  ("str", .text), ("seq", .list), ("map", .dict), ("set", .set), ("merge", .merge),
  ("value", .value)]

def ofUri (uri : String) : Tag :=
  ((names.find? fun e => standard ++ e.1 == uri).map Prod.snd).getD .unknown

end Tag

/-! ## The forms of plain scalars -/

namespace Form

def truths : List String := ["yes", "true", "on"]

def lies : List String := ["no", "false", "off"]

/-- Lower case, upper case, or lower case behind a capital. -/
def isCased (cs : List Char) : Bool :=
  cs.all Char.isLower || cs.all Char.isUpper || (cs.take 1).all Char.isUpper && (cs.drop 1).all Char.isLower

def isBool (cs : List Char) : Bool :=
  isCased cs && (truths ++ lies).contains (String.ofList (cs.map Char.toLower))

def isNull (cs : List Char) : Bool :=
  cs.isEmpty || cs = ['~'] || (isCased cs && cs.map Char.toLower = ['n', 'u', 'l', 'l'])

def isDigitOrRule (c : Char) : Bool :=
  c.isDigit || c = '_'

def unsigned (cs : List Char) : List Char :=
  (Integer.signOf cs).2

/-- One or two digits that are below sixty. -/
def isSixtieth : List Char → Bool
  | [a] => a.isDigit
  | [a, b] => '0' ≤ a && a ≤ '5' && b.isDigit
  | _ => false

def isBinary : List Char → Bool
  | '0' :: 'b' :: rest => !rest.isEmpty && rest.all fun c => c = '0' || c = '1' || c = '_'
  | _ => false

def isHexadecimal : List Char → Bool
  | '0' :: 'x' :: rest => !rest.isEmpty && rest.all fun c => (Escape.hexValue? c).isSome || c = '_'
  | _ => false

def isOctal : List Char → Bool
  | '0' :: rest => !rest.isEmpty && rest.all fun c => (Escape.octalValue? c).isSome || c = '_'
  | _ => false

def isDecimal : List Char → Bool
  | ['0'] => true
  | c :: rest => c.isDigit && c ≠ '0' && rest.all isDigitOrRule
  | [] => false

def isInt (cs : List Char) : Bool :=
  let cs := unsigned cs
  isBinary cs || isOctal cs || isHexadecimal cs ||
    match pieces ':' cs with
    | [] => false
    | first :: rest => isDecimal first && (rest.isEmpty || (first ≠ ['0'] && rest.all isSixtieth))

/-- Nothing, or an exponent with its sign. -/
def isExponent : List Char → Bool
  | [] => true
  | e :: s :: ds => (e = 'e' || e = 'E') && (s = '+' || s = '-') && !ds.isEmpty && ds.all Char.isDigit
  | _ => false

/-- Digits, and perhaps an exponent behind them. -/
def isFraction (cs : List Char) : Bool :=
  isExponent (cs.dropWhile isDigitOrRule)

def startsWithDigit (cs : List Char) : Bool :=
  cs.head?.any Char.isDigit

def isInfinity (cs : List Char) : Bool :=
  [['i', 'n', 'f'], ['I', 'n', 'f'], ['I', 'N', 'F']].contains cs

def isNan (cs : List Char) : Bool :=
  [['n', 'a', 'n'], ['N', 'a', 'N'], ['N', 'A', 'N']].contains cs

def isReal (cs : List Char) : Bool :=
  match cut '.' (unsigned cs) with
  | (_, none) => false
  | ([], some rest) =>
    let bare := cs.head? = some '.'
    isInfinity rest || (bare && (isNan rest || (startsWithDigit rest && isFraction rest)))
  | (whole, some rest) =>
    match pieces ':' whole with
    | [whole] => startsWithDigit whole && whole.all isDigitOrRule && isFraction rest
    | first :: others =>
      startsWithDigit first && first.all isDigitOrRule && others.all isSixtieth && rest.all isDigitOrRule
    | [] => false

/-! ### Dates -/

/-- A point in time as it is written. -/
structure Timestamp where
  year : Nat
  month : Nat
  day : Nat
  /-- Hour, minute and second. -/
  time : Option (Nat × Nat × Nat) := none
  fraction : List Nat := []
  /-- The distance to the common time, if there is one: its sign, hours and minutes. -/
  zone : Option (Bool × Nat × Nat) := none
  deriving DecidableEq

/-- Between `least` and `most` digits at the front of a text. -/
def digits? (least most : Nat) (cs : List Char) : Option (Nat × List Char) :=
  let ds := (cs.take most).takeWhile Char.isDigit
  if least ≤ ds.length then
    some (Integer.value (ds.filterMap asciiDigit?), cs.drop ds.length)
  else none

def after? (c : Char) : List Char → Option (List Char)
  | x :: rest => if x = c then some rest else none
  | [] => none

def isSpace (c : Char) : Bool :=
  c = ' ' || c = '\t'

/-- The end of a point in time: nothing, or its distance to the common time. -/
def zone? (cs : List Char) : Option (Option (Bool × Nat × Nat)) :=
  match cs.dropWhile isSpace with
  | [] => if cs.isEmpty then some none else none
  | ['Z'] => some (some (false, 0, 0))
  | s :: rest =>
    if s = '+' || s = '-' then do
      let (hours, rest) ← digits? 1 2 rest
      if rest.isEmpty then pure (some (s = '-', hours, 0))
      else
        let (minutes, rest) ← digits? 2 2 (← after? ':' rest)
        if rest.isEmpty then pure (some (s = '-', hours, minutes)) else none
    else none

/-- The time of day behind a date. -/
def time? (date : Timestamp) (cs : List Char) : Option Timestamp := do
  let rest ← match cs with
    | c :: rest =>
      if c = 'T' || c = 't' then some rest
      else if isSpace c then some (rest.dropWhile isSpace) else none
    | [] => none
  let (hour, rest) ← digits? 1 2 rest
  let (minute, rest) ← digits? 2 2 (← after? ':' rest)
  let (second, rest) ← digits? 2 2 (← after? ':' rest)
  let (fraction, rest) := match rest with
    | '.' :: rest =>
      let ds := rest.takeWhile Char.isDigit
      (ds.filterMap asciiDigit?, rest.drop ds.length)
    | rest => ([], rest)
  let zone ← zone? rest
  pure { date with time := some (hour, minute, second), fraction, zone }

/-- A date with two digits for month and day, or a date with a time of day. -/
def timestamp? (cs : List Char) : Option Timestamp := do
  let (year, rest) ← digits? 4 4 cs
  let (month, rest) ← digits? 1 2 (← after? '-' rest)
  let (day, rest) ← digits? 1 2 (← after? '-' rest)
  let date : Timestamp := { year, month, day }
  if rest.isEmpty then (if cs.length = 10 then some date else none) else time? date rest

end Form

/-- The tag of a plain scalar. -/
def Tag.ofPlain (s : String) : Tag :=
  let cs := s.toList
  if Form.isNull cs then .null
  else if Form.isBool cs then .bool
  else if Form.isInt cs then .int
  else if Form.isReal cs then .real
  else if (Form.timestamp? cs).isSome then .timestamp
  else if cs = ['<', '<'] then .merge
  else if cs = ['='] then .value
  else .text

/-! ## The values of tagged scalars -/

namespace Form

/-- The digit that a character is in a base up to sixteen. -/
def digitIn? (base : Nat) (c : Char) : Option Nat :=
  match digitValue? c <|> Escape.hexValue? c with
  | some d => if d < base then some d else none
  | none => none

/-- The letter that announces a base. -/
def baseMark? : Nat → Option Char
  | 2 => some 'b'
  | 8 => some 'o'
  | 16 => some 'x'
  | _ => none

/-- An integer in a base: white space around it, a sign, and for the bases that have one their mark. -/
def readInt (base : Nat) (cs : List Char) : Except Fault Int :=
  let (negative, rest) := Integer.signOf (trim isWhite cs)
  let rest := match rest with
    | '0' :: m :: more =>
      if (baseMark? base).any fun b => b = m.toLower then
        (if more.head? = some '_' then more.drop 1 else more)
      else rest
    | rest => rest
  match Integer.readDigits (digitIn? base) false rest with
  | none => .error (.notInteger base (Literal.ofText (String.ofList cs)))
  | some ds =>
    if base = 10 && Integer.digitLimit < ds.length then .error (.longInteger ds.length)
    else .ok (Integer.signed negative (ds.foldl (fun n d => base * n + d) 0))

/-- The value of parts to the base sixty, the first one the highest. -/
def sixties (parts : List Int) : Int :=
  parts.foldl (fun n d => 60 * n + d) 0

/-- The integer that a text with the tag for integers stands for. -/
def int (s : String) : Except Fault Int := do
  let (negative, cs) := Integer.signOf (s.toList.filter (· ≠ '_'))
  let n ← match cs with
    | [] => throw .noNumber
    | ['0'] => pure 0
    | '0' :: 'b' :: rest => readInt 2 rest
    | '0' :: 'x' :: rest => readInt 16 rest
    | '0' :: _ => readInt 8 cs
    | _ => if cs.contains ':' then sixties <$> (pieces ':' cs).mapM (readInt 10) else readInt 10 cs
  pure (if negative then -n else n)

open Number in
def readPart (cs : List Char) : Except Fault Float :=
  match readReal? (String.ofList cs) with
  | some x => .ok x
  | none => .error (.notReal (Literal.ofText (String.ofList cs)))

/-- The value of parts to the base sixty, the first one the highest; the lowest is added first. -/
def realSixties (parts : List Float) : Float :=
  (parts.reverse.foldl (fun (sum, weight) x => (sum + x * weight, weight * 60.0)) (0.0, 1.0)).1

open Number in
/-- The real number that a text with the tag for real numbers stands for. -/
def real (s : String) : Except Fault Float := do
  let (negative, cs) := Integer.signOf (lower (s.toList.filter (· ≠ '_')))
  let x ← match cs with
    | [] => throw .noNumber
    | '.' :: rest =>
      if isInfinity rest then pure (infinity false)
      else if isNan rest then return 0.0 / 0.0
      else readPart cs
    | _ =>
      if cs.contains ':' then realSixties <$> (pieces ':' cs).mapM readPart else readPart cs
  pure (if negative then -x else x)

/-- The truth value that a text with the tag for truth values stands for. -/
def bool (s : String) : Except Fault Bool :=
  let word := lowerText s
  if truths.contains word then .ok true
  else if lies.contains word then .ok false
  else .error (.notTruth (Literal.ofText word))

def isLeap (year : Nat) : Bool :=
  year % 4 = 0 && (year % 100 ≠ 0 || year % 400 = 0)

def daysIn (year month : Nat) : Nat :=
  if month = 2 then (if isLeap year then 29 else 28)
  else if [4, 6, 9, 11].contains month then 30 else 31

/-- The date and the time of day exist. -/
def Timestamp.check (t : Timestamp) : Except Fault Unit := do
  if t.year = 0 then throw (.noDate (.year t.year))
  if t.month = 0 || 12 < t.month then throw (.noDate .month)
  if t.day = 0 || daysIn t.year t.month < t.day then throw (.noDate .day)
  match t.time with
  | none => pure ()
  | some (hour, minute, second) =>
    if 23 < hour then throw (.noDate .hour)
    if 59 < minute then throw (.noDate .minute)
    if 59 < second then throw (.noDate .second)

end Form

example : Tag.ofPlain "1_000" = .int ∧ Tag.ofPlain "0o17" = .text ∧ Tag.ofPlain "1:30" = .int := by
  decide +kernel
example : Tag.ofPlain "1e3" = .text ∧ Tag.ofPlain "1.0e+3" = .real ∧ Tag.ofPlain ".5" = .real := by
  decide +kernel
example : Tag.ofPlain "2020-01-02" = .timestamp ∧ Tag.ofPlain "2020-1-2" = .text := by decide +kernel

end TopicShell.Yaml
