import TopicShell.Data.Datum
import TopicShell.Text.Escape
import TopicShell.Text.Utf8

/-!
# Data as JSON text

The reader for the variables that hold a list or a mapping.  Besides the standard it knows the words
for the numbers that are not finite.  Control characters must be written as escapes inside a text,
two escapes that are the halves of one character stand for it, and of two equal keys the last counts.
-/

namespace TopicShell.Data.Json

open Text Number

def isSpace (c : Char) : Bool :=
  c = ' ' || c = '\t' || c = '\n' || c = '\r'

def skip (cs : List Char) : List Char :=
  cs.dropWhile isSpace

/-- The value of four hexadecimal digits at the front, and what follows. -/
def fourDigits? : List Char → Option (Nat × List Char)
  | a :: b :: c :: d :: rest =>
    match Escape.takeDigits 16 Escape.hexValue? 4 0 [a, b, c, d] with
    | (n, 4, _) => some (n, rest)
    | _ => none
  | _ => none

def simpleEscape? : Char → Option Char
  | '"' => some '"'
  | '\\' => some '\\'
  | '/' => some '/'
  | 'b' => some '\x08'
  | 'f' => some '\x0c'
  | 'n' => some '\n'
  | 'r' => some '\r'
  | 't' => some '\t'
  | _ => none

/-- The character of an escape by number, after its letter; the first half of a pair needs the
second one. -/
def numbered? (cs : List Char) : Option (Char × List Char) :=
  match fourDigits? cs with
  | none => none
  | some (n, rest) =>
    if 0xd800 ≤ n && n < 0xdc00 then
      match rest with
      | '\\' :: 'u' :: more =>
        match fourDigits? more with
        | some (low, after) =>
          if 0xdc00 ≤ low && low < 0xe000 then
            some (Char.ofNat (0x10000 + (n - 0xd800) * 0x400 + (low - 0xdc00)), after)
          else some (Utf8.replacement, rest)
        | none => none
      | _ => some (Utf8.replacement, rest)
    else some (if n < 0xd800 || 0xe000 ≤ n then Char.ofNat n else Utf8.replacement, rest)

/-- A text after its first quote, and what follows its last one. -/
def readText : Nat → List Char → Option (List Char × List Char)
  | 0, _ => none
  | _, [] => none
  | fuel + 1, c :: rest =>
    if c = '"' then some ([], rest)
    else if c = '\\' then
      match rest with
      | [] => none
      | e :: more =>
        let escaped := if e = 'u' then numbered? more else (simpleEscape? e).map fun x => (x, more)
        escaped.bind fun (x, after) => (readText fuel after).map fun (cs, tail) => (x :: cs, tail)
    else if c.toNat < 0x20 then none
    else (readText fuel rest).map fun (cs, tail) => (c :: cs, tail)

/-- The exponent at the front of a text, if there is one, and what follows. -/
def takeExponent : List Char → Option Int × List Char
  | [] => (none, [])
  | c :: rest =>
    let (negative, more) := Integer.signOf rest
    let ds := more.takeWhile Char.isDigit
    if (c = 'e' || c = 'E') && !ds.isEmpty then
      (some (Integer.signed negative (Integer.value (ds.filterMap asciiDigit?))), more.drop ds.length)
    else (none, c :: rest)

/-- The digits after a point at the front of a text, and what follows. -/
def takeFraction : List Char → List Char × List Char
  | '.' :: rest =>
    let ds := rest.takeWhile Char.isDigit
    if ds.isEmpty then ([], '.' :: rest) else (ds, rest.drop ds.length)
  | cs => ([], cs)

/-- A number: digits without a zero in front, then a fraction and an exponent if there are any. -/
def readNumber? (cs : List Char) : Option (Datum × List Char) :=
  let (negative, cs) := match cs with
    | '-' :: rest => (true, rest)
    | cs => (false, cs)
  let whole := if cs.head? = some '0' then ['0'] else cs.takeWhile Char.isDigit
  let (fraction, after) := takeFraction (cs.drop whole.length)
  let (exponent, after) := takeExponent after
  let digits := (whole ++ fraction).filterMap asciiDigit?
  if whole.isEmpty then none
  else if !(fraction.isEmpty && exponent.isNone) then
    some (.real (realOfDecimal negative
      ⟨Integer.value digits, exponent.getD 0 - fraction.length⟩), after)
  else if digits.length ≤ Integer.digitLimit then
    some (.int (Integer.signed negative (Integer.value digits)), after)
  else none

/-- The words that stand for a value. -/
def words : List (String × Datum) := [
  ("null", .null), ("true", .bool true), ("false", .bool false),
  ("NaN", .real (0.0 / 0.0)), ("Infinity", .real (infinity false)),
  ("-Infinity", .real (infinity true))]

def readWord? (cs : List Char) : Option (Datum × List Char) :=
  (words.find? fun w => w.1.toList.isPrefixOf cs).map fun w => (w.2, cs.drop w.1.length)

mutual

/-- One value without white space in front, and what follows it.  A text of length `fuel` is read to
its end. -/
def readValue : Nat → List Char → Option (Datum × List Char)
  | 0, _ => none
  | fuel + 1, cs =>
    match cs with
    | '"' :: rest => (readText (rest.length + 1) rest).map fun (t, after) => (.text (String.ofList t), after)
    | '[' :: rest =>
      match skip rest with
      | ']' :: after => some (.list [], after)
      | rest => (readItems fuel rest).map fun (items, after) => (.list items, after)
    | '\x7b' :: rest =>
      match skip rest with
      | '\x7d' :: after => some (.dict [], after)
      | rest => (readEntries fuel rest).map fun (es, after) => (.dict (Datum.ofEntries es), after)
    | cs => readWord? cs <|> readNumber? cs

def readItems : Nat → List Char → Option (List Datum × List Char)
  | 0, _ => none
  | fuel + 1, cs =>
    (readValue fuel cs).bind fun (d, after) =>
      match skip after with
      | ',' :: rest => (readItems fuel (skip rest)).map fun (items, tail) => (d :: items, tail)
      | ']' :: tail => some ([d], tail)
      | _ => none

def readEntries : Nat → List Char → Option (List Datum.Entry × List Char)
  | 0, _ => none
  | fuel + 1, cs =>
    match cs with
    | '"' :: rest =>
      (readText (rest.length + 1) rest).bind fun (key, after) =>
        match skip after with
        | ':' :: rest =>
          (readValue fuel (skip rest)).bind fun (d, after) =>
            let entry := (.text (String.ofList key), d)
            match skip after with
            | ',' :: rest => (readEntries fuel (skip rest)).map fun (es, tail) => (entry :: es, tail)
            | '\x7d' :: tail => some ([entry], tail)
            | _ => none
        | _ => none
    | _ => none

end

/-- The datum that a text stands for, if it is one value and nothing else. -/
def read? (s : String) : Option Datum :=
  let cs := skip s.toList
  match readValue (cs.length + 1) cs with
  | some (d, after) => if (skip after).isEmpty then some d else none
  | none => none

end TopicShell.Data.Json
