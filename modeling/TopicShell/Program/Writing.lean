import TopicShell.Program.Options

/-!
# Writing text

`echo` and `printf`, and the escapes that they and others resolve.
-/

namespace TopicShell.Program

open Text

/-! ## Escapes -/

/-- A character for an escape letter. -/
def escapeLetter : Char → Option UInt8
  | 'a' => some 7
  | 'b' => some 8
  | 'e' => some 27
  | 'f' => some 12
  | 'n' => some 10
  | 'r' => some 13
  | 't' => some 9
  | 'v' => some 11
  | '\\' => some 92
  | _ => none

def octalDigits (limit : Nat) (cs : List Char) : List Char × List Char :=
  let digits := (cs.take limit).takeWhile fun c => '0' ≤ c && c ≤ '7'
  (digits, cs.drop digits.length)

def octalValue (digits : List Char) : UInt8 :=
  UInt8.ofNat (digits.foldl (fun n c => n * 8 + (c.toNat - 48)) 0)

def hexDigit? (c : Char) : Option Nat :=
  if isDigit c then some (c.toNat - 48)
  else if 'a' ≤ c && c ≤ 'f' then some (c.toNat - 87)
  else if 'A' ≤ c && c ≤ 'F' then some (c.toNat - 55)
  else none

/-- An octet of one or two digits, and what follows them. -/
def hexOctet? (cs : List Char) : Option (UInt8 × List Char) :=
  let digits := ((cs.take 2).takeWhile fun c => (hexDigit? c).isSome).filterMap hexDigit?
  if digits.isEmpty then none
  else some (UInt8.ofNat (digits.foldl (fun n d => 16 * n + d) 0), cs.drop digits.length)

/-- Which escapes there are besides letters. -/
inductive EscapeStyle where
  /-- Octal digits behind a zero. -/
  | zeroOctal
  /-- Octal digits behind a zero, and `x` with digits. -/
  | zeroOctalHex
  /-- Octal digits. -/
  | octal
  deriving DecidableEq

/-- Text with its escapes resolved; the flag tells that `\c` cut it off. -/
def unescape (style : EscapeStyle) : Nat → List Char → Octets × Bool
  | 0, _ => ([], false)
  | _, [] => ([], false)
  | fuel + 1, '\\' :: c :: rest =>
    let add (octets : Octets) (rest : List Char) : Octets × Bool :=
      let (more, cutOff) := unescape style fuel rest
      (octets ++ more, cutOff)
    if c = 'c' && style ≠ .octal then ([], true)
    else
      match escapeLetter c with
      | some b => add [b] rest
      | none =>
        if style ≠ .octal && c = '0' then
          let (digits, rest) := octalDigits 3 rest
          add [octalValue digits] rest
        else if style = .octal && '0' ≤ c && c ≤ '7' then
          let (digits, rest) := octalDigits 2 rest
          add [octalValue (c :: digits)] rest
        else
          match (if style = .zeroOctalHex && c = 'x' then hexOctet? rest else none) with
          | some (b, rest) => add [b] rest
          | none => add (Utf8.encode (String.ofList (if style = .octal then [c] else ['\\', c]))) rest
  | fuel + 1, c :: rest =>
    let (more, cutOff) := unescape style fuel rest
    (Utf8.encode c.toString ++ more, cutOff)

def unescapeAll (style : EscapeStyle) (text : String) : Octets × Bool :=
  unescape style (text.length + 1) text.toList

/-! ## echo -/

/-- Writes its arguments between spaces; `escapes` resolves escapes without being asked. -/
def echo (escapes : Bool) : Tool := fun args j =>
  let isFlag (a : String) : Bool :=
    if escapes then a = "-n"
    else 1 < a.length && a.startsWith "-" && (a.toList.drop 1).all fun c => c = 'n' || c = 'e' || c = 'E'
  let flags := if escapes then (args.take 1).takeWhile isFlag else args.takeWhile isFlag
  let letters := flags.flatMap fun a => a.toList.drop 1
  let noLine := letters.contains 'n'
  let interpret := escapes
    || (letters.filter fun c => c = 'e' || c = 'E').getLast? == some 'e'
  let text := " ".intercalate (args.drop flags.length)
  let style : EscapeStyle := if escapes then .zeroOctal else .zeroOctalHex
  let (octets, cutOff) := if interpret then unescapeAll style text else (Utf8.encode text, false)
  (some .success, j.write .output (if noLine || cutOff then octets else octets ++ [10]))

/-! ## printf -/

/-- What stands between the percent sign and the letter of a conversion. -/
structure Conversion where
  flags : List Char := []
  width : Nat := 0
  precision : Option Nat := none

/-- A number with an explicit sign or a blank in its place where that is asked for. -/
def signedText (flags : List Char) (n : Int) (text : Octets) : Octets :=
  if n < 0 then text
  else if flags.contains '+' then (43 : UInt8) :: text
  else if flags.contains ' ' then (32 : UInt8) :: text
  else text

/-- The value of a numeric argument: a quote gives the code of the character behind it. -/
def argumentValue (arg : String) : Int :=
  match arg.toList with
  | '\'' :: c :: _ | '"' :: c :: _ => c.toNat
  | '0' :: 'x' :: ds | '0' :: 'X' :: ds => ((ds.filterMap hexDigit?).foldl (fun n d => 16 * n + d) 0 : Nat)
  | '0' :: ds => (ds.foldl (fun n c => 8 * n + (c.toNat - 48)) 0 : Nat)
  | _ => numberOf arg

/-- Digits with zeros in front of them up to the precision. -/
def withPrecision (precision : Option Nat) (text : Octets) : Octets :=
  match precision, text with
  | some p, 45 :: ds => 45 :: padded true false p ds
  | some p, ds => padded true false p ds
  | none, ds => ds

def Conversion.apply (c : Conversion) (letter : Char) (arg : String) : Octets :=
  let blank := padded false (c.flags.contains '-') c.width
  let number (text : Octets) : Octets :=
    let text := withPrecision c.precision text
    if c.flags.contains '0' && !c.flags.contains '-' && c.precision.isNone then
      match text with
      | 45 :: ds => 45 :: padded true false (c.width - 1) ds
      | ds => padded true false c.width ds
    else blank text
  let n := argumentValue arg
  match letter with
  | 'd' | 'i' => number (signedText c.flags n (inBase 10 n))
  | 'u' => number (inBase 10 n)
  | 'x' => number ((if c.flags.contains '#' then [48, 120] else []) ++ inBase 16 n)
  | 'X' => number ((inBase 16 n).map fun b => if 97 ≤ b && b ≤ 122 then b - 32 else b)
  | 'o' => number ((if c.flags.contains '#' then [48] else []) ++ inBase 8 n)
  | 'c' => blank ((Utf8.encode arg).take 1)
  | _ =>
    let text := if letter = 'b' then (unescapeAll .zeroOctal arg).1 else Utf8.encode arg
    blank (match c.precision with
      | some p => text.take p
      | none => text)

/-- One pass over a format: what it writes, the arguments left, and whether it took any. -/
def formatOnce (hex : Bool) : Nat → List Char → List String → Octets × List String × Bool
  | 0, _, args => ([], args, false)
  | _, [], args => ([], args, false)
  | fuel + 1, '%' :: '%' :: rest, args =>
    let (more, args, used) := formatOnce hex fuel rest args
    ((37 : UInt8) :: more, args, used)
  | fuel + 1, '%' :: rest, args =>
    let flags := rest.takeWhile fun c => c = '-' || c = '0' || c = '+' || c = ' ' || c = '#'
    let rest := rest.drop flags.length
    let width := rest.takeWhile isDigit
    let rest := rest.drop width.length
    let (precision, rest) := match rest with
      | '.' :: more => (some (naturalOf (more.takeWhile isDigit)), more.dropWhile isDigit)
      | more => (none, more)
    match rest with
    | [] => ([], args, false)
    | letter :: rest =>
      let text := Conversion.apply ⟨flags, naturalOf width, precision⟩ letter (args.headD "")
      let (more, args, _) := formatOnce hex fuel rest args.tail
      (text ++ more, args, true)
  | fuel + 1, '\\' :: c :: rest, args =>
    let (digits, after) := octalDigits 3 (c :: rest)
    let (octets, rest) :=
      if !digits.isEmpty then ([octalValue digits], after)
      else if c = '"' then ([(34 : UInt8)], rest)
      else
        match escapeLetter c, (if hex && c = 'x' then hexOctet? rest else none) with
        | some b, _ => ([b], rest)
        | none, some (b, rest) => ([b], rest)
        | none, none => (Utf8.encode (String.ofList ['\\', c]), rest)
    let (more, args, used) := formatOnce hex fuel rest args
    (octets ++ more, args, used)
  | fuel + 1, c :: rest, args =>
    let (more, args, used) := formatOnce hex fuel rest args
    (Utf8.encode c.toString ++ more, args, used)

/-- Uses the format again as long as it takes arguments and some are left. -/
def formatAll (hex : Bool) (format : List Char) : Nat → List String → Octets
  | 0, _ => []
  | fuel + 1, args =>
    let (text, left, used) := formatOnce hex (format.length + 1) format args
    if used && !left.isEmpty then text ++ formatAll hex format fuel left else text

/-- Writes its arguments in a format; `hex` admits `\x` in it. -/
def printf (hex : Bool) : Tool
  | [], j => (some .failure, j.complain "printf: missing operand")
  | format :: args, j =>
    (some .success, j.write .output (formatAll hex format.toList (args.length + 1) args))

end TopicShell.Program
