import TopicShell.Number.Shortest
import TopicShell.Text.Integer

/-!
# Floating-point numbers

Numbers of double precision are taken apart into sign, mantissa and exponent, and put together
again by rounding an exact quotient.  `realText` writes one: the fewest digits that read back,
positional from 10⁻⁴ to below 10¹⁶ with at least one digit after the point, else with an exponent
of at least two digits.  `readReal?` reads one.
-/

namespace TopicShell.Number

inductive RealParts where
  | nan
  | infinite (negative : Bool)
  | zero (negative : Bool)
  | finite (negative : Bool) (magnitude : Binary)

/-- Sign, exponent and fraction of a double. -/
def realParts (x : Float) : RealParts :=
  let bits : Nat := x.toBits.toNat
  let negative := bits / Nat.pow 2 63 = 1
  let field : Nat := bits / Nat.pow 2 52 % Nat.pow 2 11
  let fraction : Nat := bits % Nat.pow 2 52
  if field = 2047 then (if fraction = 0 then .infinite negative else .nan)
  else if field = 0 then
    if fraction = 0 then .zero negative else .finite negative ⟨fraction, -1074, false⟩
  else .finite negative ⟨fraction + Nat.pow 2 52, (field : Int) - 1075, fraction = 0 && 1 < field⟩

def withSign (negative : Bool) (bits : Nat) : Float :=
  Float.ofBits (UInt64.ofNat (bits + if negative then Nat.pow 2 63 else 0))

def infinity (negative : Bool) : Float :=
  withSign negative (2047 * Nat.pow 2 52)

/-- The double next to a quotient; ties go to the even mantissa. -/
def realOfRatio (negative : Bool) (r : Ratio) : Float :=
  if r.num = 0 then withSign negative 0
  else
    -- two to the power of `size` is below the quotient, four times as much above
    let size : Int := (r.num.log2 : Int) - r.den.log2 - 1
    let size := if (r.scale2 (-(size + 1))).floor = 0 then size else size + 1
    let exponent := max (size - 52) (-1074)
    let mantissa := (r.scale2 (-exponent)).round
    -- a mantissa that rounding carries over spills into the field of the exponent
    let bits := if mantissa < Nat.pow 2 52 then mantissa
      else mantissa - Nat.pow 2 52 + (exponent + 1075).toNat * Nat.pow 2 52
    if 972 ≤ exponent then infinity negative else withSign negative (min bits (2047 * Nat.pow 2 52))

def realOfInt (n : Int) : Float :=
  realOfRatio (n < 0) ⟨n.natAbs, 1⟩

/-- The double next to a decimal. -/
def realOfDecimal (negative : Bool) (d : Decimal) : Float :=
  let top := d.exponent + (d.digits.log2 : Int) * 30103 / 100000
  if d.digits = 0 || top < -400 then withSign negative 0
  else if 400 < top then infinity negative
  else realOfRatio negative ((Ratio.mk d.digits 1).scale10 d.exponent)

/-- The number without its fraction; infinite numbers have none. -/
def truncated? (x : Float) : Option Int :=
  match realParts x with
  | .zero _ => some 0
  | .finite negative b => some (Text.Integer.signed negative b.ratio.floor)
  | .nan | .infinite _ => none

/-- The exact value of a number as a signed quotient. -/
def exactValue? (x : Float) : Option (Int × Nat) :=
  match realParts x with
  | .zero _ => some (0, 1)
  | .finite negative b => some (Text.Integer.signed negative b.ratio.num, b.ratio.den)
  | .nan | .infinite _ => none

/-! ## Writing -/

def digitsOf (n : Nat) : List Char :=
  Text.Integer.ofNat n

/-- An exponent with its sign and at least two digits. -/
def exponentText (mark : Char) (e : Int) : List Char :=
  let ds := digitsOf e.natAbs
  mark :: (if e < 0 then '-' else '+') :: ((if ds.length < 2 then ['0'] else []) ++ ds)

/-- Digits with the point after the first `point` of them. -/
def positional (ds : List Char) (point : Int) : List Char :=
  if point ≤ 0 then '0' :: '.' :: (List.replicate (-point).toNat '0' ++ ds)
  else
    let n := point.toNat
    if ds.length ≤ n then ds ++ List.replicate (n - ds.length) '0' ++ ['.', '0']
    else ds.take n ++ '.' :: ds.drop n

def decimalText (d : Decimal) : List Char :=
  let d := d.normal
  let ds := digitsOf d.digits
  let top := d.exponent + ds.length - 1
  if -4 ≤ top && top < 16 then positional ds (top + 1)
  else
    ds.take 1 ++ (if ds.length = 1 then [] else '.' :: ds.drop 1) ++ exponentText 'e' top

def signText (negative : Bool) : List Char :=
  if negative then ['-'] else []

def realText (x : Float) : String :=
  String.ofList (match realParts x with
    | .nan => ['n', 'a', 'n']
    | .infinite negative => signText negative ++ ['i', 'n', 'f']
    | .zero negative => signText negative ++ ['0', '.', '0']
    | .finite negative b => signText negative ++ decimalText b.shortest)

/-! ## Reading -/

/-- Digits with single underscores between them at the front of a text, and what follows. -/
def takeDigits (digit? : Char → Option Nat) : List Char → List Nat × List Char
  | [] => ([], [])
  | c :: rest =>
    match digit? c with
    | some d =>
      let (ds, after) := takeDigits digit? rest
      (d :: ds, after)
    | none =>
      if c = '_' && (rest.head?.bind digit?).isSome then
        let (ds, after) := takeDigits digit? rest
        if ds.isEmpty then ([], c :: rest) else (ds, after)
      else ([], c :: rest)

/-- Digits that do not start with an underscore. -/
def takeNumber (digit? : Char → Option Nat) (cs : List Char) : List Nat × List Char :=
  if cs.head? = some '_' then ([], cs) else takeDigits digit? cs

/-- The exponent part of a number, if there is one, and what follows. -/
def takeExponent (digit? : Char → Option Nat) : List Char → Int × List Char
  | c :: rest =>
    if c = 'e' || c = 'E' then
      let (negative, digits) := Text.Integer.signOf rest
      match takeNumber digit? digits with
      | ([], _) => (0, c :: rest)
      | (ds, after) => (Text.Integer.signed negative (Text.Integer.value ds), after)
    else (0, c :: rest)
  | [] => (0, [])

/-- A decimal number with an optional point and exponent, and nothing after it. -/
def readDecimal? (digit? : Char → Option Nat) (cs : List Char) : Option Decimal :=
  let (whole, rest) := takeNumber digit? cs
  let (fraction, rest) := match rest with
    | '.' :: more => takeNumber digit? more
    | rest => ([], rest)
  let (e, rest) := takeExponent digit? rest
  if rest.isEmpty && !(whole.isEmpty && fraction.isEmpty) then
    some ⟨Text.Integer.value (whole ++ fraction), e - fraction.length⟩
  else none

/-- The words for numbers that are not finite, in lower case. -/
def readWord? (negative : Bool) (cs : List Char) : Option Float :=
  let word := String.ofList (cs.map Char.toLower)
  if word = "inf" || word = "infinity" then some (infinity negative)
  else if word = "nan" then some (0.0 / 0.0)
  else none

/-- The number a text stands for, if it is one: white space around it, a sign, single underscores
between digits and digits of every script are allowed. -/
def readReal? (s : String) : Option Float :=
  let (negative, cs) := Text.Integer.signOf (Text.trim Text.isWhite s.toList)
  match readDecimal? Text.digitValue? cs with
  | some d => some (realOfDecimal negative d)
  | none => readWord? negative cs

end TopicShell.Number
