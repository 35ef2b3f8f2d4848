import TopicShell.Program.Options

/-!
# Counting and ordering

`wc` counts, `sort` orders lines and `uniq` reduces equal neighbours.  Octets are compared by their
values.  Keys of a line are compared one after the other; the whole line decides when they tie.
-/

namespace TopicShell.Program

open Text

/-! ## wc -/

def wordCount (text : Octets) : Nat :=
  let isSpace (b : UInt8) : Bool := b = 32 || (9 ≤ b && b ≤ 13)
  (text.foldl (fun (n, inside) b =>
    if isSpace b then (n, false) else (if inside then n else n + 1, true)) (0, false)).1

/-- The width of a line on a screen with tabs at every eighth column. -/
def shownWidth (line : Octets) : Nat :=
  line.foldl (fun n b => if b = 9 then n + 8 - n % 8 else if 32 ≤ b && b < 127 then n + 1 else n) 0

def wc : Tool := fun args j =>
  let order := ['l', 'w', 'm', 'c', 'L']
  withOptions "wc" { flags := order } 1 args j fun o =>
    let shown := if o.given.isEmpty then ['l', 'w', 'c'] else order.filter o.has
    let names := o.names
    if (names.isEmpty || names.contains "-") && !j.ended then (none, j)
    else
      let count (text : Octets) (c : Char) : Nat :=
        match c with
        | 'l' => text.count 10
        | 'w' => wordCount text
        | 'L' => ((linesOf text).map shownWidth).foldl max 0
        | _ => text.length
      let (contents, ok, j) := readAll "wc" (if names.isEmpty then ["-"] else names) j
      let total := contents.flatMap (·.2)
      let width :=
        if shown.length = 1 && names.length ≤ 1 then 1
        else if names.isEmpty || names.contains "-" then 7
        else (Nat.toDigits 10 total.length).length
      let row (text : Octets) (name : String) : String :=
        let numbers := shown.map fun c =>
          let ds := Nat.toDigits 10 (count text c)
          String.ofList (List.replicate (width - ds.length) ' ' ++ ds)
        " ".intercalate numbers ++ (if name.isEmpty then "" else " " ++ name) ++ "\n"
      let rows := contents.map fun (name, text) => row text (if names.isEmpty then "" else name)
      let rows := if 1 < names.length then rows ++ [row total "total"] else rows
      (some (if ok then .success else .failure), j.print (String.join rows))

/-! ## Comparing -/

/-- Octets in rising order, a text before those that go on after it. -/
def compareOctets : Octets → Octets → Ordering
  | [], [] => .eq
  | [], _ :: _ => .lt
  | _ :: _, [] => .gt
  | a :: s, b :: t => (compare a b).then (compareOctets s t)

def isBlankOctet (b : UInt8) : Bool :=
  b = 32 || b = 9

def isDigitOctet (b : UInt8) : Bool :=
  48 ≤ b && b ≤ 57

/-- The number at the start of a text, as a number of units of a power of ten below one. -/
def leadingNumber (text : Octets) : Int × Nat :=
  let text := text.dropWhile isBlankOctet
  let (negative, text) := match text with
    | 45 :: rest => (true, rest)
    | rest => (false, rest)
  let whole := text.takeWhile isDigitOctet
  let part := match text.drop whole.length with
    | 46 :: rest => rest.takeWhile isDigitOctet
    | _ => []
  let n : Nat := (whole ++ part).foldl (fun n b => 10 * n + (b.toNat - 48)) 0
  (if negative then -(n : Int) else n, part.length)

def compareNumbers (a b : Octets) : Ordering :=
  let (m, p) := leadingNumber a
  let (n, q) := leadingNumber b
  compare (m * Int.pow 10 q) (n * Int.pow 10 p)

/-! ## Keys -/

/-- How keys are compared. -/
structure Comparison where
  numeric : Bool := false
  reversed : Bool := false
  folds : Bool := false
  skipsBlanks : Bool := false
  plainOnly : Bool := false
  deriving DecidableEq

def Comparison.ofLetters (cs : List Char) : Comparison :=
  { numeric := cs.contains 'n' || cs.contains 'g', reversed := cs.contains 'r', folds := cs.contains 'f'
    skipsBlanks := cs.contains 'b', plainOnly := cs.contains 'd' }

def upperOctet (b : UInt8) : UInt8 :=
  if 97 ≤ b && b ≤ 122 then b - 32 else b

/-- The order without its direction. -/
def Comparison.forward (c : Comparison) (a b : Octets) : Ordering :=
  if c.numeric then compareNumbers a b
  else
    let seen (s : Octets) : Octets :=
      let s := if c.skipsBlanks then s.dropWhile isBlankOctet else s
      let s := if c.plainOnly then s.filter fun x =>
        isBlankOctet x || isDigitOctet x || (65 ≤ upperOctet x && upperOctet x ≤ 90) else s
      if c.folds then s.map upperOctet else s
    compareOctets (seen a) (seen b)

def Comparison.compare (c : Comparison) (a b : Octets) : Ordering :=
  if c.reversed then (c.forward a b).swap else c.forward a b

/-- A position in a line: a field and a character in it, counted from one; character zero is the
end of the field. -/
structure Spot where
  field : Nat
  character : Nat := 0

structure Key where
  start : Spot
  stop : Option Spot
  comparison : Option Comparison

/-- A position with the letters behind it. -/
def Spot.read (cs : List Char) : Option (Spot × List Char) :=
  let digits := cs.takeWhile isDigit
  match natural? digits, cs.drop digits.length with
  | some n, '.' :: rest =>
    let more := rest.takeWhile isDigit
    (natural? more).map fun m => (⟨n, m⟩, rest.drop more.length)
  | some n, rest => some (⟨n, 0⟩, rest)
  | none, _ => none

def Key.read (text : String) : Option Key :=
  match cut ',' text.toList with
  | (a, after) =>
    match Spot.read a, after.map Spot.read with
    | some (start, letters), none =>
      if start.field = 0 then none
      else some ⟨start, none, if letters.isEmpty then none else some (.ofLetters letters)⟩
    | some (start, letters), some (some (stop, more)) =>
      if start.field = 0 then none
      else
        let letters := letters ++ more
        some ⟨start, some stop, if letters.isEmpty then none else some (.ofLetters letters)⟩
    | _, _ => none

/-- The fields of a line, each with what separates it from the field before: blanks belong to the
field behind them, a mark to the field before it. -/
def fieldsOf (mark : Option UInt8) (line : Octets) : List Octets :=
  match mark with
  | some m => line.splitBy fun a _ => a ≠ m
  | none => line.splitBy fun a b => isBlankOctet a || !isBlankOctet b

/-- Where a field begins in a line. -/
def fieldStart (fields : List Octets) (n : Nat) : Nat :=
  (fields.take (n - 1)).foldl (fun total f => total + f.length) 0

/-- The part of a line that a key looks at. -/
def Key.part (k : Key) (mark : Option UInt8) (line : Octets) : Octets :=
  let fields := fieldsOf mark line
  let first := fieldStart fields k.start.field + (k.start.character - 1)
  let last := match k.stop with
    | none => line.length
    | some s =>
      if s.character = 0 then
        let past := fieldStart fields (s.field + 1)
        if mark.isSome && s.field < fields.length then past - 1 else past
      else fieldStart fields s.field + s.character
  (line.take last).drop first

/-! ## sort and uniq -/

/-- Neighbours that `same` relates, reduced to the first of them, with their number. -/
def runs (same : Octets → Octets → Bool) : List Octets → List (Nat × Octets)
  | [] => []
  | line :: rest =>
    match runs same rest with
    | (n, next) :: more =>
      if same line next then (n + 1, line) :: more else (1, line) :: (n, next) :: more
    | [] => [(1, line)]

def compareKeys (mark : Option UInt8) (fallback : Comparison) (a b : Octets) : List Key → Ordering
  | [] => .eq
  | k :: rest =>
    ((k.comparison.getD fallback).compare (k.part mark a) (k.part mark b)).then
      (compareKeys mark fallback a b rest)

def sort : Tool := fun args j =>
  let letters := ['r', 'n', 'u', 'f', 's', 'b', 'd', 'g']
  withOptions "sort" { flags := letters, valued := ['k', 't', 'o'] } 2 args j fun o =>
    let overall := Comparison.ofLetters (letters.filter o.has)
    match (o.values 'k').mapM Key.read with
    | none => (some (.code 2), j.complain "sort: invalid number at field start")
    | some keys =>
      let mark := (o.value? 't').bind fun t => (Utf8.encode t).head?
      let byKeys (a b : Octets) : Ordering :=
        if keys.isEmpty then overall.compare a b else compareKeys mark overall a b keys
      let le (a b : Octets) : Bool :=
        let order := byKeys a b
        let order := if o.has 'u' || o.has 's' then order
          else order.then (if overall.reversed then compareOctets b a else compareOctets a b)
        order != .gt
      onEachFileOr (.code 2) "sort" o.names j fun contents j =>
        let text := contents.flatMap (·.2)
        let sorted := (linesOf text).mergeSort le
        let kept := if o.has 'u' then (runs (fun a b => byKeys a b == .eq) sorted).map (·.2) else sorted
        match o.value? 'o' with
        | none => (some .success, j.write .output (joinLines kept))
        | some name =>
          match j.files.openTarget name false with
          | .ok (target, files) => (some .success, { j with files := files.store target (joinLines kept) })
          | .error e => (some (.code 2), j.complain ("sort: open failed: " ++ name ++ ": " ++ e.text))

def uniq : Tool := fun args j =>
  withOptions "uniq" { flags := ['c', 'd', 'u', 'i', 'D'], valued := ['f', 's', 'w'] } 1 args j fun o =>
    let amount (c : Char) : Option Nat := (o.value? c).map fun v => (numberOf v).toNat
    let seen (line : Octets) : Octets :=
      let fields := fieldsOf none line
      let line := line.drop (fieldStart fields ((amount 'f').getD 0 + 1))
      let line := line.drop ((amount 's').getD 0)
      let line := (amount 'w').elim line (line.take ·)
      if o.has 'i' then line.map upperOctet else line
    onFiles "uniq" (o.names.take 1) j fun text j =>
      let lines := linesOf text
      let shown : List Octets :=
        if o.has 'D' then
          ((lines.splitBy fun a b => seen a == seen b).filter (1 < ·.length)).flatten
        else
          let kept := (runs (fun a b => seen a == seen b) lines).filter fun r =>
            (!o.has 'd' || 1 < r.1) && (!o.has 'u' || r.1 = 1)
          kept.map fun r => if o.has 'c' then padded false false 7 (inBase 10 r.1) ++ [32] ++ r.2 else r.2
      match o.names with
      | [_, target] =>
        match j.files.openTarget target false with
        | .ok (t, files) => (some .success, { j with files := files.store t (joinLines shown) })
        | .error e => (some .failure, j.complain ("uniq: " ++ shownName target ++ ": " ++ e.text))
      | _ => (some .success, j.write .output (joinLines shown))

end TopicShell.Program
