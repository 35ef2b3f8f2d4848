import TopicShell.Program.Pattern
import TopicShell.Program.Writing

/-!
# Changing octets

`tr` maps, deletes or squeezes the members of a set.  Sets are written with ranges, classes and
escapes; an escaped member never begins a range or a class.
-/

namespace TopicShell.Program

open Text

/-! ## Sets -/

/-- The octets of a set's text; the flag tells which of them were escaped. -/
def setOctets : Nat → List Char → List (UInt8 × Bool)
  | 0, _ => []
  | _, [] => []
  | fuel + 1, '\\' :: c :: rest =>
    if '0' ≤ c && c ≤ '7' then
      let (digits, rest) := octalDigits 2 rest
      (octalValue (c :: digits), true) :: setOctets fuel rest
    else
      match (if c = 'e' then none else escapeLetter c) with
      | some b => (b, true) :: setOctets fuel rest
      | none => (Utf8.encode c.toString).map (·, true) ++ setOctets fuel rest
  | fuel + 1, c :: rest => (Utf8.encode c.toString).map (·, false) ++ setOctets fuel rest

/-- A member, or as many of it as are needed to fill the set. -/
inductive SetPart where
  | members (bs : List UInt8)
  | fill (b : UInt8)

/-- The parts of a set, or what is wrong about it. -/
def setParts : Nat → List (UInt8 × Bool) → Except String (List SetPart)
  | 0, _ => .ok []
  | _, [] => .ok []
  | fuel + 1, (0x5b, false) :: (0x3a, false) :: rest =>
    let name := rest.takeWhile (·.1 ≠ 0x3a)
    match rest.drop name.length with
    | (0x3a, _) :: (0x5d, _) :: after =>
      let text := Utf8.decodeText (name.map (·.1))
      let members := ((List.range 256).map UInt8.ofNat).filter (Pattern.classOf text)
      if members.isEmpty then .error ("invalid character class " ++ quoted text)
      else (setParts fuel after).map (.members members :: ·)
    | _ => (setParts fuel ((0x3a, true) :: rest)).map (.members [0x5b] :: ·)
  | fuel + 1, (0x5b, false) :: (b, e) :: (0x2a, false) :: rest =>
    let digits := rest.takeWhile fun d => isDigit (Char.ofNat d.1.toNat)
    match rest.drop digits.length with
    | (0x5d, false) :: after =>
      let ds := digits.map fun d => Char.ofNat d.1.toNat
      let n := if ds.head? = some '0' then ds.foldl (fun n c => 8 * n + (c.toNat - 48)) 0 else naturalOf ds
      (setParts fuel after).map ((if n = 0 then .fill b else .members (List.replicate n b)) :: ·)
    | _ => (setParts fuel ((b, e) :: (0x2a, false) :: rest)).map (.members [0x5b] :: ·)
  | fuel + 1, (a, _) :: (0x2d, false) :: (b, _) :: rest =>
    if a ≤ b then
      let members := (List.range (b.toNat - a.toNat + 1)).map fun n => a + UInt8.ofNat n
      (setParts fuel rest).map (.members members :: ·)
    else
      let shown (b : UInt8) : String := Utf8.decodeText [b]
      .error ("range-endpoints of " ++ quoted (shown a ++ "-" ++ shown b)
        ++ " are in reverse collating sequence order")
  | fuel + 1, (a, _) :: rest => (setParts fuel rest).map (.members [a] :: ·)

/-- The members of a set in order, filled up to `size` where it says so. -/
def setMembers (size : Nat) (parts : List SetPart) : List UInt8 :=
  let fixed := parts.foldl (fun n p => match p with | .members bs => n + bs.length | .fill _ => n) 0
  parts.flatMap fun
    | .members bs => bs
    | .fill b => List.replicate (size - fixed) b

def setOf (size : Nat) (text : String) : Except String (List UInt8) :=
  let octets := setOctets (text.length + 1) text.toList
  (setParts (octets.length + 1) octets).map (setMembers size)

/-! ## tr -/

/-- Runs of the same member of `set` become one. -/
def squeeze (set : List UInt8) (text : Octets) : Octets :=
  (text.foldl (fun (acc : Octets) b =>
    if acc.head? = some b && set.contains b then acc else b :: acc) []).reverse

/-- The image of an octet: the member of `second` at its place in `first`; the last member stands
for all behind it, unless the sets are `cut` to one length. -/
def mapped (cut : Bool) (first second : List UInt8) (b : UInt8) : UInt8 :=
  match first.reverse.idxOf? b with
  | some i =>
    match second[first.length - 1 - i]? with
    | some c => c
    | none => if cut then b else second.getLast?.getD b
  | none => b

/-- What `tr` does with a text, or why it cannot. -/
def trWork (o : Options) : Except (List String) (Octets → Octets) :=
  let usage := "Try 'tr --help' for more information."
  let missing (after : String) (reason : List String) : List String :=
    ("missing operand" ++ after) :: reason ++ [usage]
  match o.names with
  | [] => .error (missing "" [])
  | first :: more =>
    let deletes := o.has 'd'
    let squeezes := o.has 's'
    match setOf 0 first, more.mapM (setOf 0) with
    | .error e, _ | _, .error e => .error [e]
    | .ok set, .ok _ =>
      let complement := o.has 'c' || o.has 'C'
      let set := if complement then ((List.range 256).map UInt8.ofNat).filter (!set.contains ·) else set
      let second : List UInt8 := match setOf set.length (more.headD "") with
        | .ok s => s
        | .error _ => []
      match more with
      | [] =>
        if deletes && squeezes then
          .error (missing (" after " ++ quoted first)
            ["Two strings must be given when both deleting and squeezing repeats."])
        else if deletes then .ok fun text => text.filter (!set.contains ·)
        else if squeezes then .ok (squeeze set)
        else
          .error (missing (" after " ++ quoted first) ["Two strings must be given when translating."])
      | [_] =>
        if deletes && squeezes then .ok fun text => squeeze second (text.filter (!set.contains ·))
        else if deletes then
          .error ["extra operand " ++ quoted (more.headD ""),
            "Only one string may be given when deleting without squeezing repeats.", usage]
        else if second.isEmpty && !o.has 't' then
          .error ["when not truncating set1, string2 must be non-empty"]
        else .ok fun text =>
          let text := text.map (mapped (o.has 't') set second)
          if squeezes then squeeze second text else text
      | _ :: extra :: _ => .error ["extra operand " ++ quoted extra, usage]

def tr : Tool := fun args j =>
  withOptions "tr" { flags := ['d', 's', 'c', 'C', 't'], leads := true } 1 args j fun o =>
    match trWork o with
    | .error texts => (some .failure, j.complain ("tr: " ++ "\n".intercalate texts))
    | .ok work => j.consume fun text j => (some .success, j.write .output (work text))

end TopicShell.Program
