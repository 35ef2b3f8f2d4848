import TopicShell.Text.Utf8

/-!
# Patterns

Basic and extended regular expressions over octets, as `grep` and `sed` use them: literals, `.`,
bracket lists, repetition, groups, alternatives and conditions on a place between two octets.
`ends` lists the places that a pattern reaches from a place, more repetitions first; `longest` takes
the first of those that have taken the most.
-/

namespace TopicShell.Program

inductive Pattern where
  | nothing
  | one (admits : UInt8 → Bool)
  /-- Nothing, where the octets on both sides are admitted. -/
  | between (admits : Option UInt8 → Option UInt8 → Bool)
  | seq (a b : Pattern)
  | either (a b : Pattern)
  | star (a : Pattern)
  /-- Keeps what it matches under a number. -/
  | group (n : Nat) (a : Pattern)
  /-- What the group of this number holds. -/
  | same (n : Nat)

namespace Pattern

/-- A place in a line: the octet before it, what follows it, how much the match has taken, and what
groups hold, last first. -/
structure Place where
  before : Option UInt8 := none
  rest : Octets
  taken : Nat := 0
  groups : List (Nat × Octets) := []

/-- The place behind some octets that follow. -/
def Place.skip (p : Place) (octets : Octets) : Place :=
  { p with
    before := octets.getLast?.or p.before
    rest := p.rest.drop octets.length
    taken := p.taken + octets.length }

/-- Repeats a step as long as it takes something, at most `fuel` times; the places are put in front
of `others`. -/
def closure (step : Place → List Place) : Nat → Place → List Place → List Place
  | 0, p, others => p :: others
  | fuel + 1, p, others =>
    ((step p).filter (p.taken < ·.taken)).foldr (closure step fuel) (p :: others)

/-- The places that a pattern reaches in a line of `length` octets. -/
def ends (length : Nat) : Pattern → Place → List Place
  | nothing, p => [p]
  | one admits, p =>
    match p.rest with
    | b :: _ => if admits b then [p.skip [b]] else []
    | [] => []
  | between admits, p => if admits p.before p.rest.head? then [p] else []
  | seq a b, p => (ends length a p).flatMap (ends length b)
  | either a b, p => ends length a p ++ ends length b p
  | star a, p => closure (ends length a) length p []
  | group n a, p =>
    (ends length a p).map fun q =>
      { q with groups := (n, p.rest.take (q.taken - p.taken)) :: q.groups }
  | same n, p =>
    match p.groups.lookup n with
    | some held => if held.isPrefixOf p.rest then [p.skip held] else []
    | none => []

/-- The place behind the longest match. -/
def longest (length : Nat) (a : Pattern) (p : Place) : Option Place :=
  (a.ends length p).foldl (fun best q =>
    match best with
    | some b => if b.taken < q.taken then some q else some b
    | none => some q) none

/-- A match in a line, with what is before and after it and what its groups hold. -/
structure Match where
  before : Octets
  found : Octets
  rest : Octets
  groups : List (Nat × Octets)

/-- Looks for a match at every place in turn; `before` is what has been passed, last first. -/
def searchFrom (length : Nat) (a : Pattern) (last : Option UInt8) (before : Octets) :
    Octets → Option Match
  | [] => (a.longest length { before := last, rest := [] }).map fun q => ⟨before.reverse, [], [], q.groups⟩
  | b :: s =>
    match a.longest length { before := last, rest := b :: s } with
    | some q => some ⟨before.reverse, (b :: s).take q.taken, q.rest, q.groups⟩
    | none => searchFrom length a (some b) (b :: before) s

/-- The leftmost longest match behind an octet, in a line of at most `length` octets. -/
def search (a : Pattern) (length : Nat) (last : Option UInt8) (s : Octets) : Option Match :=
  searchFrom length a last [] s

def occursIn (a : Pattern) (line : Octets) : Bool :=
  (a.search line.length none line).isSome

/-- The matches of a line that are not empty, from left to right; `found` are those before, last
first. -/
def occurrences (a : Pattern) (length : Nat) (found : List Octets) :
    Nat → Option UInt8 → Octets → List Octets
  | 0, _, _ => found.reverse
  | fuel + 1, last, s =>
    match a.search length last s with
    | none => found.reverse
    | some m =>
      if m.found.isEmpty then
        match m.rest with
        | [] => found.reverse
        | b :: rest => occurrences a length found fuel (some b) rest
      else occurrences a length (m.found :: found) fuel m.found.getLast? m.rest

/-! ## Conditions on a place -/

def isWordOctet (b : UInt8) : Bool :=
  let c := Char.ofNat b.toNat
  b < 128 && (c.isAlphanum || c = '_')

def lineStart : Pattern :=
  between fun b _ => b.isNone

def lineEnd : Pattern :=
  between fun _ a => a.isNone

def wordStart : Pattern :=
  between fun b a => !b.any isWordOctet && a.any isWordOctet

def wordEnd : Pattern :=
  between fun b a => b.any isWordOctet && !a.any isWordOctet

def wordEdge : Pattern :=
  between fun b a => b.any isWordOctet != a.any isWordOctet

/-- A pattern that fills the line. -/
def wholeLine (a : Pattern) : Pattern :=
  seq lineStart (seq a lineEnd)

/-- A pattern with no part of a word on either side. -/
def wholeWord (a : Pattern) : Pattern :=
  seq (between fun b _ => !b.any isWordOctet) (seq a (between fun _ n => !n.any isWordOctet))

/-! ## Reading patterns -/

def octet (c : Char) : UInt8 := UInt8.ofNat c.toNat

def lowerOctet (b : UInt8) : UInt8 :=
  if octet 'A' ≤ b && b ≤ octet 'Z' then b + 32 else b

/-- A literal octet, in either case if `fold`. -/
def literal (fold : Bool) (b : UInt8) : Pattern :=
  one fun x => if fold then lowerOctet x == lowerOctet b else x == b

/-- The members of a named class. -/
def classOf (name : String) (b : UInt8) : Bool :=
  let c := Char.ofNat b.toNat
  if 128 ≤ b then false
  else
    match name with
    | "alpha" => c.isAlpha
    | "digit" => c.isDigit
    | "alnum" => c.isAlphanum
    | "upper" => c.isUpper
    | "lower" => c.isLower
    | "space" => c = ' ' || (9 ≤ b && b ≤ 13)
    | "blank" => c = ' ' || c = '\t'
    | "punct" => 33 ≤ b && b ≤ 126 && !c.isAlphanum
    | "print" => 32 ≤ b && b ≤ 126
    | "graph" => 33 ≤ b && b ≤ 126
    | "cntrl" => b < 32 || b = 127
    | "xdigit" => c.isDigit || ('a' ≤ c && c ≤ 'f') || ('A' ≤ c && c ≤ 'F')
    | _ => false

/-- The members of a bracket list up to its closing bracket, and the rest. -/
def bracket : Nat → Bool → Octets → Option ((UInt8 → Bool) × Octets)
  | 0, _, _ => none
  | fuel + 1, first, s =>
    match s with
    | [] => none
    | 0x5d :: rest => if first then cons (· == 0x5d) (bracket fuel false rest) else some (fun _ => false, rest)
    | 0x5b :: 0x3a :: rest =>
      let name := rest.takeWhile (· ≠ 0x3a)
      cons (classOf (Text.Utf8.decodeText name)) (bracket fuel false (rest.drop (name.length + 2)))
    | a :: 0x2d :: b :: rest =>
      if b = 0x5d then cons (· == a) (bracket fuel false (0x2d :: b :: rest))
      else cons (fun x => a ≤ x && x ≤ b) (bracket fuel false rest)
    | a :: rest => cons (· == a) (bracket fuel false rest)
where
  cons (p : UInt8 → Bool) (more : Option ((UInt8 → Bool) × Octets)) :
      Option ((UInt8 → Bool) × Octets) :=
    more.map fun (q, rest) => (fun x => p x || q x, rest)

/-- How a pattern is written. -/
structure Dialect where
  extended : Bool := false
  fold : Bool := false
  /-- A backslash before a letter may stand for a control character. -/
  controls : Bool := false
  /-- A closing bracket that ends no group stands for itself. -/
  closesAlone : Bool := false

/-- A pattern at most `n` times. -/
def atMost (a : Pattern) : Nat → Pattern
  | 0 => nothing
  | n + 1 => either (seq a (atMost a n)) nothing

/-- A pattern at least `n` times before another one. -/
def atLeast (a : Pattern) : Nat → Pattern → Pattern
  | 0, b => b
  | n + 1, b => seq a (atLeast a n b)

def digits (s : Octets) : Octets :=
  s.takeWhile fun b => octet '0' ≤ b && b ≤ octet '9'

def numberOf (ds : Octets) : Nat :=
  ds.foldl (fun n b => 10 * n + (b.toNat - 48)) 0

/-- The bounds of an interval behind its opening brace, and what follows the closing one. -/
def interval? (d : Dialect) (s : Octets) : Option (Nat × Option Nat × Octets) :=
  let low := digits s
  let close (least : Nat) (most : Option Nat) : Octets → Option (Nat × Option Nat × Octets)
    | 0x7d :: rest => if d.extended then some (least, most, rest) else none
    | 0x5c :: 0x7d :: rest => if d.extended then none else some (least, most, rest)
    | _ => none
  match s.drop low.length with
  | 0x2c :: more =>
    let high := digits more
    close (numberOf low) (if high.isEmpty then none else some (numberOf high)) (more.drop high.length)
  | more => if low.isEmpty then none else close (numberOf low) (some (numberOf low)) more

def repeated (d : Dialect) (a : Pattern) (s : Octets) : Pattern × Octets :=
  let times (whole : Octets) (inside : Octets) : Pattern × Octets :=
    match interval? d inside with
    | some (least, some most, rest) => (atLeast a least (atMost a (most - least)), rest)
    | some (least, none, rest) => (atLeast a least (star a), rest)
    | none => (a, whole)
  match s with
  | 0x2a :: rest => (star a, rest)
  | 0x2b :: rest => if d.extended then (seq a (star a), rest) else (a, s)
  | 0x3f :: rest => if d.extended then (either a nothing, rest) else (a, s)
  | 0x7b :: rest => if d.extended then times s rest else (a, s)
  | 0x5c :: 0x2b :: rest => if d.extended then (a, s) else (seq a (star a), rest)
  | 0x5c :: 0x3f :: rest => if d.extended then (a, s) else (either a nothing, rest)
  | 0x5c :: 0x7b :: rest => if d.extended then (a, s) else times s rest
  | _ => (a, s)

/-- What a backslash makes of the octet behind it. -/
def escaped (d : Dialect) (b : UInt8) : Pattern :=
  match Char.ofNat b.toNat with
  | 'w' => one isWordOctet
  | 'W' => one (!isWordOctet ·)
  | 's' => one (classOf "space")
  | 'S' => one (!classOf "space" ·)
  | '<' => wordStart
  | '>' => wordEnd
  | 'b' => wordEdge
  | 'n' => if d.controls then one (· == 10) else literal d.fold b
  | 't' => if d.controls then one (· == 9) else literal d.fold b
  | c => if '1' ≤ c && c ≤ '9' then same (c.toNat - 48) else literal d.fold b

/-- What is wrong about a pattern. -/
inductive PatternFault where
  | openGroup
  | closedGroup
  | openBracket
  deriving DecidableEq

def PatternFault.message : PatternFault → String
  | openGroup => "Unmatched ( or \\("
  | closedGroup => "Unmatched ) or \\)"
  | openBracket => "Unmatched [, [^, [:, [., or [="

/-- What has been read of a pattern: it, the text behind it, and how many groups have begun. -/
structure Reading where
  pattern : Pattern
  rest : Octets
  groups : Nat
  fault : Option PatternFault := none

/-- Puts a pattern in front; of alternatives it belongs to the first. -/
def Reading.behind (a : Pattern) (r : Reading) : Reading :=
  match r.pattern with
  | either b c => { r with pattern := either (seq a b) c }
  | b => { r with pattern := seq a b }

/-- A pattern up to the end of its group; `first` holds at the start of a branch. -/
def read (d : Dialect) : Nat → Bool → Nat → Octets → Reading
  | 0, _, n, s => ⟨nothing, s, n, none⟩
  | fuel + 1, first, n, s =>
    let next (a : Pattern) (n : Nat) (rest : Octets) : Reading :=
      let (a, rest) := repeated d a rest
      (read d fuel false n rest).behind a
    match s with
    | [] => ⟨nothing, [], n, none⟩
    | 0x5e :: rest =>
      if first || d.extended then (read d fuel true n rest).behind lineStart
      else next (literal d.fold 0x5e) n rest
    | 0x24 :: rest =>
      let ends := rest.isEmpty || d.extended || [0x5c, octet ')'].isPrefixOf rest
        || [0x5c, octet '|'].isPrefixOf rest
      next (if ends then lineEnd else literal d.fold 0x24) n rest
    | 0x2e :: rest => next (one fun _ => true) n rest
    | 0x5b :: rest =>
      let (negated, body) := match rest with
        | 0x5e :: more => (true, more)
        | more => (false, more)
      match bracket (body.length + 1) true body with
      | some (admits, rest) =>
        let admits := if d.fold then
            fun x => admits x || admits (lowerOctet x)
              || (97 ≤ x && x ≤ 122 && admits (x - 32))
          else admits
        next (one fun x => admits x != negated) n rest
      | none => ⟨nothing, [], n, some .openBracket⟩
    | 0x5c :: b :: rest =>
      if !d.extended && b = octet '(' then inside fuel n rest next
      else if !d.extended && b = octet ')' then ⟨nothing, s, n, none⟩
      else if !d.extended && b = octet '|' then branch fuel n rest
      else next (escaped d b) n rest
    | b :: rest =>
      if d.extended && b = octet '(' then inside fuel n rest next
      else if d.extended && b = octet ')' then ⟨nothing, s, n, none⟩
      else if d.extended && b = octet '|' then branch fuel n rest
      else next (literal d.fold b) n rest
where
  inside (fuel n : Nat) (rest : Octets) (next : Pattern → Nat → Octets → Reading) : Reading :=
    let r := read d fuel true (n + 1) rest
    let after := next (group (n + 1) r.pattern) r.groups (r.rest.drop (if d.extended then 1 else 2))
    let fault := r.fault.or (if r.rest.isEmpty then some .openGroup else after.fault)
    { after with fault }
  branch (fuel n : Nat) (rest : Octets) : Reading :=
    let r := read d fuel true n rest
    { r with pattern := either nothing r.pattern }

/-- The whole of a pattern; `groups` have begun before. -/
def readAll (d : Dialect) : Nat → Nat → Octets → Except PatternFault Pattern
  | 0, _, _ => .ok nothing
  | fuel + 1, groups, text =>
    let r := read d (2 * text.length + 1) true groups text
    match r.fault, r.rest with
    | some e, _ => .error e
    | none, [] => .ok r.pattern
    | none, b :: rest =>
      if d.extended && d.closesAlone then
        (readAll d fuel r.groups rest).map fun q => seq r.pattern (seq (literal d.fold b) q)
      else .error .closedGroup

def parse (d : Dialect) (text : Octets) : Except PatternFault Pattern :=
  readAll d (text.length + 1) 0 text

/-- A text that stands for itself. -/
def fixed (fold : Bool) (text : Octets) : Pattern :=
  text.foldr (fun b a => seq (literal fold b) a) nothing

end Pattern

end TopicShell.Program
