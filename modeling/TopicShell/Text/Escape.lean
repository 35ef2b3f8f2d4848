import TopicShell.Text.Literal

/-!
# Backslash escapes

`numbers` reads the escapes of a text whose characters all lie below U+0100: the short ones, octal
and hexadecimal numbers, and names.  A backslash before any other character stays.  An escape may
stand for a surrogate, which is a number but no character; `decode` gives the characters.  `spellOut`
writes the characters from a limit on as escapes, so that any text can be read.
-/

namespace TopicShell.Text.Escape

/-- The characters that have names, by name. -/
abbrev Names := List Char → Option Char

/-- Names of characters, apart from the plain letters. -/
def namedCharacters : List (Nat × String) := [
  (0x20, "SPACE"), (0x21, "EXCLAMATION MARK"), (0x22, "QUOTATION MARK"), (0x23, "NUMBER SIGN"),
  (0x24, "DOLLAR SIGN"), (0x25, "PERCENT SIGN"), (0x26, "AMPERSAND"), (0x27, "APOSTROPHE"),
  (0x28, "LEFT PARENTHESIS"), (0x29, "RIGHT PARENTHESIS"), (0x2a, "ASTERISK"),
  (0x2b, "PLUS SIGN"), (0x2c, "COMMA"), (0x2d, "HYPHEN-MINUS"), (0x2e, "FULL STOP"),
  (0x2f, "SOLIDUS"), (0x30, "DIGIT ZERO"), (0x31, "DIGIT ONE"), (0x32, "DIGIT TWO"),
  (0x33, "DIGIT THREE"), (0x34, "DIGIT FOUR"), (0x35, "DIGIT FIVE"), (0x36, "DIGIT SIX"),
  (0x37, "DIGIT SEVEN"), (0x38, "DIGIT EIGHT"), (0x39, "DIGIT NINE"), (0x3a, "COLON"),
  (0x3b, "SEMICOLON"), (0x3c, "LESS-THAN SIGN"), (0x3d, "EQUALS SIGN"),
  (0x3e, "GREATER-THAN SIGN"), (0x3f, "QUESTION MARK"), (0x40, "COMMERCIAL AT"),
  (0x5b, "LEFT SQUARE BRACKET"), (0x5c, "REVERSE SOLIDUS"), (0x5d, "RIGHT SQUARE BRACKET"),
  (0x5e, "CIRCUMFLEX ACCENT"), (0x5f, "LOW LINE"), (0x60, "GRAVE ACCENT"),
  (0x7b, "LEFT CURLY BRACKET"), (0x7c, "VERTICAL LINE"), (0x7d, "RIGHT CURLY BRACKET"),
  (0x7e, "TILDE"), (0xa0, "NO-BREAK SPACE"), (0xa1, "INVERTED EXCLAMATION MARK"),
  (0xa2, "CENT SIGN"), (0xa3, "POUND SIGN"), (0xa4, "CURRENCY SIGN"), (0xa5, "YEN SIGN"),
  (0xa6, "BROKEN BAR"), (0xa7, "SECTION SIGN"), (0xa8, "DIAERESIS"), (0xa9, "COPYRIGHT SIGN"),
  (0xaa, "FEMININE ORDINAL INDICATOR"), (0xab, "LEFT-POINTING DOUBLE ANGLE QUOTATION MARK"),
  (0xac, "NOT SIGN"), (0xad, "SOFT HYPHEN"), (0xae, "REGISTERED SIGN"), (0xaf, "MACRON"),
  (0xb0, "DEGREE SIGN"), (0xb1, "PLUS-MINUS SIGN"), (0xb2, "SUPERSCRIPT TWO"),
  (0xb3, "SUPERSCRIPT THREE"), (0xb4, "ACUTE ACCENT"), (0xb5, "MICRO SIGN"),
  (0xb6, "PILCROW SIGN"), (0xb7, "MIDDLE DOT"), (0xb8, "CEDILLA"), (0xb9, "SUPERSCRIPT ONE"),
  (0xba, "MASCULINE ORDINAL INDICATOR"), (0xbb, "RIGHT-POINTING DOUBLE ANGLE QUOTATION MARK"),
  (0xbc, "VULGAR FRACTION ONE QUARTER"), (0xbd, "VULGAR FRACTION ONE HALF"),
  (0xbe, "VULGAR FRACTION THREE QUARTERS"), (0xbf, "INVERTED QUESTION MARK"),
  (0xc0, "LATIN CAPITAL LETTER A WITH GRAVE"), (0xc1, "LATIN CAPITAL LETTER A WITH ACUTE"),
  (0xc2, "LATIN CAPITAL LETTER A WITH CIRCUMFLEX"), (0xc3, "LATIN CAPITAL LETTER A WITH TILDE"),
  (0xc4, "LATIN CAPITAL LETTER A WITH DIAERESIS"),
  (0xc5, "LATIN CAPITAL LETTER A WITH RING ABOVE"), (0xc6, "LATIN CAPITAL LETTER AE"),
  (0xc7, "LATIN CAPITAL LETTER C WITH CEDILLA"), (0xc8, "LATIN CAPITAL LETTER E WITH GRAVE"),
  (0xc9, "LATIN CAPITAL LETTER E WITH ACUTE"), (0xca, "LATIN CAPITAL LETTER E WITH CIRCUMFLEX"),
  (0xcb, "LATIN CAPITAL LETTER E WITH DIAERESIS"), (0xcc, "LATIN CAPITAL LETTER I WITH GRAVE"),
  (0xcd, "LATIN CAPITAL LETTER I WITH ACUTE"), (0xce, "LATIN CAPITAL LETTER I WITH CIRCUMFLEX"),
  (0xcf, "LATIN CAPITAL LETTER I WITH DIAERESIS"), (0xd0, "LATIN CAPITAL LETTER ETH"),
  (0xd1, "LATIN CAPITAL LETTER N WITH TILDE"), (0xd2, "LATIN CAPITAL LETTER O WITH GRAVE"),
  (0xd3, "LATIN CAPITAL LETTER O WITH ACUTE"), (0xd4, "LATIN CAPITAL LETTER O WITH CIRCUMFLEX"),
  (0xd5, "LATIN CAPITAL LETTER O WITH TILDE"), (0xd6, "LATIN CAPITAL LETTER O WITH DIAERESIS"),
  (0xd7, "MULTIPLICATION SIGN"), (0xd8, "LATIN CAPITAL LETTER O WITH STROKE"),
  (0xd9, "LATIN CAPITAL LETTER U WITH GRAVE"), (0xda, "LATIN CAPITAL LETTER U WITH ACUTE"),
  (0xdb, "LATIN CAPITAL LETTER U WITH CIRCUMFLEX"),
  (0xdc, "LATIN CAPITAL LETTER U WITH DIAERESIS"), (0xdd, "LATIN CAPITAL LETTER Y WITH ACUTE"),
  (0xde, "LATIN CAPITAL LETTER THORN"), (0xdf, "LATIN SMALL LETTER SHARP S"),
  (0xe0, "LATIN SMALL LETTER A WITH GRAVE"), (0xe1, "LATIN SMALL LETTER A WITH ACUTE"),
  (0xe2, "LATIN SMALL LETTER A WITH CIRCUMFLEX"), (0xe3, "LATIN SMALL LETTER A WITH TILDE"),
  (0xe4, "LATIN SMALL LETTER A WITH DIAERESIS"), (0xe5, "LATIN SMALL LETTER A WITH RING ABOVE"),
  (0xe6, "LATIN SMALL LETTER AE"), (0xe7, "LATIN SMALL LETTER C WITH CEDILLA"),
  (0xe8, "LATIN SMALL LETTER E WITH GRAVE"), (0xe9, "LATIN SMALL LETTER E WITH ACUTE"),
  (0xea, "LATIN SMALL LETTER E WITH CIRCUMFLEX"), (0xeb, "LATIN SMALL LETTER E WITH DIAERESIS"),
  (0xec, "LATIN SMALL LETTER I WITH GRAVE"), (0xed, "LATIN SMALL LETTER I WITH ACUTE"),
  (0xee, "LATIN SMALL LETTER I WITH CIRCUMFLEX"), (0xef, "LATIN SMALL LETTER I WITH DIAERESIS"),
  (0xf0, "LATIN SMALL LETTER ETH"), (0xf1, "LATIN SMALL LETTER N WITH TILDE"),
  (0xf2, "LATIN SMALL LETTER O WITH GRAVE"), (0xf3, "LATIN SMALL LETTER O WITH ACUTE"),
  (0xf4, "LATIN SMALL LETTER O WITH CIRCUMFLEX"), (0xf5, "LATIN SMALL LETTER O WITH TILDE"),
  (0xf6, "LATIN SMALL LETTER O WITH DIAERESIS"), (0xf7, "DIVISION SIGN"),
  (0xf8, "LATIN SMALL LETTER O WITH STROKE"), (0xf9, "LATIN SMALL LETTER U WITH GRAVE"),
  (0xfa, "LATIN SMALL LETTER U WITH ACUTE"), (0xfb, "LATIN SMALL LETTER U WITH CIRCUMFLEX"),
  (0xfc, "LATIN SMALL LETTER U WITH DIAERESIS"), (0xfd, "LATIN SMALL LETTER Y WITH ACUTE"),
  (0xfe, "LATIN SMALL LETTER THORN"), (0xff, "LATIN SMALL LETTER Y WITH DIAERESIS"),
  (0x2013, "EN DASH"), (0x2014, "EM DASH"), (0x2018, "LEFT SINGLE QUOTATION MARK"),
  (0x2019, "RIGHT SINGLE QUOTATION MARK"), (0x201c, "LEFT DOUBLE QUOTATION MARK"),
  (0x201d, "RIGHT DOUBLE QUOTATION MARK"), (0x2022, "BULLET"), (0x2026, "HORIZONTAL ELLIPSIS"),
  (0x20ac, "EURO SIGN"), (0x2190, "LEFTWARDS ARROW"), (0x2191, "UPWARDS ARROW"),
  (0x2192, "RIGHTWARDS ARROW"), (0x2193, "DOWNWARDS ARROW"), (0x25cf, "BLACK CIRCLE"),
  (0x2713, "CHECK MARK"), (0xfffd, "REPLACEMENT CHARACTER")]

/-- The capital letter that a name ends with, after its start. -/
def letterAfter? (start : String) (name : List Char) : Option Char :=
  if start.toList.isPrefixOf name then
    match name.drop start.length with
    | [c] => if c.isUpper then some c else none
    | _ => none
  else none

/-- The plain Latin letter with a name. -/
def letterNamed? (name : String) : Option Char :=
  match letterAfter? "LATIN CAPITAL LETTER " name.toList with
  | some c => some c
  | none => (letterAfter? "LATIN SMALL LETTER " name.toList).map Char.toLower

/-- The character with a name; case does not matter. -/
def named? : Names := fun name =>
  let name := String.ofList (name.map Char.toUpper)
  match letterNamed? name with
  | some c => some c
  | none => (namedCharacters.find? (·.2 == name)).map fun e => Char.ofNat e.1

inductive Reason where
  | atEnd
  | shortHex
  | shortUnicode
  | shortLong
  | outOfRange
  | malformedName
  | unknownName
  deriving DecidableEq

def Reason.text : Reason → String
  | atEnd => "\\ at end of string"
  | shortHex => "truncated \\xXX escape"
  | shortUnicode => "truncated \\uXXXX escape"
  | shortLong => "truncated \\UXXXXXXXX escape"
  | outOfRange => "illegal Unicode character"
  | malformedName => "malformed \\N character escape"
  | unknownName => "unknown Unicode character name"

/-- An escape that cannot be read, with its place: `start` and the first position after it. -/
structure EscapeError where
  start : Nat
  stop : Nat
  reason : Reason
  deriving DecidableEq

def EscapeError.message (e : EscapeError) : String :=
  "'unicodeescape' codec can't decode byte"
    ++ (if e.stop = e.start + 1 then " 0x5c in position " ++ toString e.start
      else "s in position " ++ toString e.start ++ "-" ++ toString (e.stop - 1))
    ++ ": " ++ e.reason.text

def hexValue? (c : Char) : Option Nat :=
  if c.isDigit then some (c.toNat - 48)
  else if 'a' ≤ c && c ≤ 'f' then some (c.toNat - 87)
  else if 'A' ≤ c && c ≤ 'F' then some (c.toNat - 55)
  else none

def octalValue? (c : Char) : Option Nat :=
  if '0' ≤ c && c ≤ '7' then some (c.toNat - 48) else none

/-- The value of at most `width` digits at the front, their number, and what follows. -/
def takeDigits (base : Nat) (digit? : Char → Option Nat) : Nat → Nat → List Char → Nat × Nat × List Char
  | 0, n, cs => (n, 0, cs)
  | _, n, [] => (n, 0, [])
  | width + 1, n, c :: rest =>
    match digit? c with
    | some d =>
      let (value, count, after) := takeDigits base digit? width (base * n + d) rest
      (value, count + 1, after)
    | none => (n, 0, c :: rest)

/-- The numbers that an escape stands for, how long it is, and what follows; an error has its length. -/
abbrev Reading := Except (Nat × Reason) (List Nat × Nat × List Char)

/-- An escape by number, after the backslash and its letter. -/
def numbered (width : Nat) (short : Reason) (cs : List Char) : Reading :=
  let (value, count, rest) := takeDigits 16 hexValue? width 0 cs
  if count < width then .error (2 + count, short)
  else if 0x110000 ≤ value then .error (2 + width, .outOfRange)
  else .ok ([value], 2 + width, rest)

/-- An escape by name, after the backslash and the letter. -/
def byName (names : Names) : List Char → Reading
  | '\x7b' :: rest =>
    let name := rest.takeWhile (· ≠ '\x7d')
    match rest.drop name.length with
    | [] => .error (3 + name.length, .malformedName)
    | _ :: after =>
      if name.isEmpty then .error (3, .malformedName)
      else match names name with
        | some c => .ok ([c.toNat], 4 + name.length, after)
        | none => .error (4 + name.length, .unknownName)
  | _ => .error (2, .malformedName)

/-- The escapes of one letter. -/
def short? : Char → Option (List Char)
  | '\n' => some []
  | '\\' => some ['\\']
  | '\'' => some ['\'']
  | '"' => some ['"']
  | 'a' => some ['\x07']
  | 'b' => some ['\x08']
  | 'f' => some ['\x0c']
  | 'n' => some ['\n']
  | 'r' => some ['\r']
  | 't' => some ['\t']
  | 'v' => some ['\x0b']
  | _ => none

/-- Reads one escape, after its backslash. -/
def readEscape (names : Names) : List Char → Reading
  | [] => .error (1, .atEnd)
  | c :: rest =>
    match short? c with
    | some cs => .ok (cs.map Char.toNat, 2, rest)
    | none =>
      if c = 'x' then numbered 2 .shortHex rest
      else if c = 'u' then numbered 4 .shortUnicode rest
      else if c = 'U' then numbered 8 .shortLong rest
      else if c = 'N' then byName names rest
      else if (octalValue? c).isSome then
        let (value, count, after) := takeDigits 8 octalValue? 3 0 (c :: rest)
        .ok ([value], 1 + count, after)
      else .ok (['\\'.toNat, c.toNat], 2, rest)

/-- Reads all escapes; `position` counts from the start of the whole text, and a text of length
`fuel` is read to its end. -/
def numbersFrom (names : Names) : Nat → Nat → List Char → Except EscapeError (List Nat)
  | _, _, [] => .ok []
  | 0, _, _ => .ok []
  | fuel + 1, position, c :: rest =>
    if c = '\\' then
      match readEscape names rest with
      | .error (length, reason) => .error ⟨position, position + length, reason⟩
      | .ok (ns, length, after) => (numbersFrom names fuel (position + length) after).map (ns ++ ·)
    else (numbersFrom names fuel (position + 1) rest).map (c.toNat :: ·)

/-- The numbers of the characters of a text whose escapes are read. -/
def numbers (names : Names) (cs : List Char) : Except EscapeError (List Nat) :=
  numbersFrom names cs.length 0 cs

def decode (cs : List Char) : Except EscapeError (List Char) :=
  (numbers named? cs).map (·.map Char.ofNat)

/-- Writes a character from `limit` on as an escape. -/
def spell (limit : Nat) (c : Char) : List Char :=
  if c.toNat < limit then [c]
  else if c.toNat < 0x100 then '\\' :: 'x' :: Literal.hex 2 c.toNat
  else if c.toNat < 0x10000 then '\\' :: 'u' :: Literal.hex 4 c.toNat
  else '\\' :: 'U' :: Literal.hex 8 c.toNat

def spellOut (limit : Nat) (cs : List Char) : List Char :=
  cs.flatMap (spell limit)

example : (decode "\\033[0m\\q\\u00e9".toList).toOption = some "\x1b[0m\\q\u00e9".toList := by
  decide +kernel
example : (numbers named? "\\ud800".toList).toOption = some [0xd800] := by decide +kernel
example : (decode "a\\x1".toList).toOption = none := by decide +kernel

end TopicShell.Text.Escape
