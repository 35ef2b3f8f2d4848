import TopicShell.Program.Options

/-!
# Showing octets

`od` writes octets in one of several forms, sixteen in a row.  A row that repeats the one before it
is left out; one star stands for all that are left out in a row.
-/

namespace TopicShell.Program

/-- How numbers of some octets are written. -/
inductive NumberForm where
  | octal
  | hexadecimal
  | signed
  | unsigned
  deriving DecidableEq

inductive OctetForm where
  | character
  | number (form : NumberForm) (size : Nat)

def fillLeft (c : Char) (width : Nat) (s : String) : String :=
  String.ofList (List.replicate (width - s.length) c) ++ s

def digitsIn (base width n : Nat) : String :=
  fillLeft '0' width (String.ofList (Nat.toDigits base n))

def shownCharacter (b : UInt8) : String :=
  match b.toNat with
  | 0 => "\\0"
  | 7 => "\\a"
  | 8 => "\\b"
  | 9 => "\\t"
  | 10 => "\\n"
  | 11 => "\\v"
  | 12 => "\\f"
  | 13 => "\\r"
  | n => if 32 ≤ n && n < 127 then (Char.ofNat n).toString else digitsIn 8 3 n

/-- The number of some octets, the lowest first. -/
def wordValue (octets : Octets) : Nat :=
  octets.foldr (fun b n => 256 * n + b.toNat) 0

/-- A number of `size` octets with the space in front of it. -/
def NumberForm.shown (f : NumberForm) (size n : Nat) : String :=
  let bound := Nat.pow 256 size
  match f with
  | octal => " " ++ digitsIn 8 ((8 * size + 2) / 3) n
  | hexadecimal => " " ++ digitsIn 16 (2 * size) n
  | unsigned => " " ++ fillLeft ' ' (toString (bound - 1)).length (toString n)
  | signed =>
    let value : Int := if 2 * n < bound then n else (n : Int) - bound
    " " ++ fillLeft ' ' ((toString (bound / 2)).length + 1) (toString value)

/-- Groups of at most `size`. -/
def groupsOf (size : Nat) : Nat → Octets → List Octets
  | 0, _ => []
  | fuel + 1, octets =>
    if octets.isEmpty then [] else octets.take size :: groupsOf size fuel (octets.drop size)

def OctetForm.shown (f : OctetForm) (row : Octets) : String :=
  match f with
  | character => String.join (row.map fun b => fillLeft ' ' 4 (shownCharacter b))
  | number form size =>
    String.join ((groupsOf (max 1 size) row.length row).map fun g => form.shown size (wordValue g))

/-- A form as it is asked for: a letter and a size. -/
def OctetForm.read? (text : String) : Option OctetForm :=
  let sized (form : NumberForm) (cs : List Char) : Option OctetForm :=
    match cs with
    | [] => some (.number form 4)
    | ['C'] => some (.number form 1)
    | ['S'] => some (.number form 2)
    | ['I'] => some (.number form 4)
    | ds => (natural? ds).map (.number form)
  match text.toList with
  | ['c'] => some .character
  | 'o' :: cs => sized .octal cs
  | 'x' :: cs => sized .hexadecimal cs
  | 'd' :: cs => sized .signed cs
  | 'u' :: cs => sized .unsigned cs
  | _ => none

/-- The form that an option asks for. -/
def OctetForm.ofOption? (option : Char × String) : Option OctetForm :=
  match option.1 with
  | 't' => read? option.2
  | 'b' => some (.number .octal 1)
  | 'c' => some .character
  | 'd' => some (.number .unsigned 2)
  | 'o' => some (.number .octal 2)
  | 'x' => some (.number .hexadecimal 2)
  | _ => none

def addressText (radix : String) (n : Nat) : String :=
  match radix with
  | "n" => ""
  | "d" => digitsIn 10 7 n
  | "x" => digitsIn 16 6 n
  | _ => digitsIn 8 7 n

/-- The rows with their addresses; `last` is the row before and whether a star stands for it. -/
def shownRows (radix : String) (f : OctetForm) (everything : Bool) :
    Nat → Option (Octets × Bool) → List Octets → List String
  | _, _, [] => []
  | n, last, row :: rest =>
    match last with
    | some (before, starred) =>
      if !everything && before = row then
        (if starred then [] else ["*\n"]) ++ shownRows radix f everything (n + row.length) (some (row, true)) rest
      else
        (addressText radix n ++ f.shown row ++ "\n") :: shownRows radix f everything (n + row.length) (some (row, false)) rest
    | none =>
      (addressText radix n ++ f.shown row ++ "\n") :: shownRows radix f everything (n + row.length) (some (row, false)) rest

def od : Tool := fun args j =>
  withOptions "od" { flags := ['b', 'c', 'd', 'o', 'x', 'v'], valued := ['A', 't', 'N', 'j', 'w'] } 1 args j fun o =>
    let radix := (o.value? 'A').getD "o"
    let form := (o.given.filterMap OctetForm.ofOption?).getLast?.getD (.number .octal 2)
    let amount (c : Char) : Option Nat := (o.value? c).bind fun v => natural? v.toList
    onEachFile "od" o.names j fun contents j =>
      if contents.isEmpty then (some .success, j)
      else
        let skipped := (amount 'j').getD 0
        let text := (contents.flatMap (·.2)).drop skipped
        let text := (amount 'N').elim text (text.take ·)
        let width := max 1 ((amount 'w').getD 16)
        let lines := shownRows radix form (o.has 'v') skipped none (groupsOf width (text.length + 1) text)
        let closing := if radix = "n" then "" else addressText radix (skipped + text.length) ++ "\n"
        (some .success, j.print (String.join lines ++ closing))

end TopicShell.Program
