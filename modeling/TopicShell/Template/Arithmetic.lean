import TopicShell.Template.Fault
import TopicShell.Template.Node
import TopicShell.Text.Pieces

/-!
# Operations on values

Arithmetic, comparison and membership.  Integers are exact and have no limit; an operation with a
double gives a double.  Quotients are rounded down, and a remainder has the sign of the divisor.
-/

namespace TopicShell.Template.Value

open TopicShell.Number

/-- A value that is missing fails with its reason. -/
def defined (v : Value) : Result Unit :=
  match v with
  | undefined why => .error (.undefined why)
  | _ => .ok ()

/-! ## Doubles -/

def realOf (n : Int) : Result Float :=
  let x := realOfInt n
  match realParts x with
  | .infinite _ => .error (.overflow "int too large to convert to float")
  | _ => .ok x

/-- The double a number stands for. -/
def toReal? : Value → Option (Result Float)
  | real x => some (.ok x)
  | v => v.int?.map realOf

/-- The remainder of exact division, with the sign of the dividend. -/
def truncatedRemainder (x y : Float) : Float :=
  match exactValue? x, exactValue? y with
  | some (a, d), some (b, e) =>
    let r := Int.tmod (a * e) (b * d)
    if r = 0 then (if x < 0 || (1 / x) < 0 then -0.0 else 0.0)
    else realOfRatio (r < 0) ⟨r.natAbs, d * e⟩
  | some _, Option.none => if y != y then y else x
  | Option.none, _ => 0.0 / 0.0

def zeroLike (y : Float) : Float :=
  if y < 0 then -0.0 else 0.0

/-- Quotient rounded down, and remainder with the sign of the divisor. -/
def divideReals (x y : Float) : Float × Float :=
  let r := truncatedRemainder x y
  let q := (x - r) / y
  let (r, q) :=
    if r == 0 then (zeroLike y, q)
    else if (y < 0) != (r < 0) then (r + y, q - 1.0)
    else (r, q)
  let q :=
    if q == 0 then zeroLike (x / y)
    else
      let f := q.floor
      if q - f > 0.5 then f + 1.0 else f
  (q, r)

/-- The exact quotient of two integers, rounded once. -/
def ratioOf (a b : Int) : Result Value :=
  if b = 0 then .error (.zeroDivision .whole)
  else
    let x := realOfRatio ((a < 0) != (b < 0)) ⟨a.natAbs, b.natAbs⟩
    match realParts x with
    | .infinite _ => .error (.overflow "integer division result too large for a float")
    | _ => .ok (real x)

/-- A power with a negative exponent is a double. -/
def intPower (a b : Int) : Result Value :=
  if 0 ≤ b then .ok (int (Int.pow a b.toNat))
  else if a = 0 then .error (.zeroDivision .power)
  else do return real ((← realOf a).pow (← realOf b))

def realPower (x y : Float) : Result Value :=
  if x == 0 && y < 0 then .error (.zeroDivision .power)
  else
    let r := x.pow y
    match realParts r, realParts x, realParts y with
    | .infinite _, .finite _ _, .finite _ _ =>
      .error (.overflow "(34, 'Numerical result out of range')")
    | _, _, _ => .ok (real r)

def intOperation (op : BinaryOp) (a b : Int) : Result Value :=
  match op with
  | .add => .ok (int (a + b))
  | .sub => .ok (int (a - b))
  | .mul => .ok (int (a * b))
  | .div => ratioOf a b
  | .floorDiv => if b = 0 then .error (.zeroDivision .wholeQuotient) else .ok (int (a.fdiv b))
  | .rem => if b = 0 then .error (.zeroDivision .wholeRemainder) else .ok (int (a.fmod b))
  | .pow => intPower a b

def realOperation (op : BinaryOp) (x y : Float) : Result Value :=
  match op with
  | .add => .ok (real (x + y))
  | .sub => .ok (real (x - y))
  | .mul => .ok (real (x * y))
  | .div => if y == 0 then .error (.zeroDivision .real) else .ok (real (x / y))
  | .floorDiv =>
    if y == 0 then .error (.zeroDivision .realQuotient) else .ok (real (divideReals x y).1)
  | .rem => if y == 0 then .error (.zeroDivision .realRemainder) else .ok (real (divideReals x y).2)
  | .pow => realPower x y

/-! ## Sequences -/

def repeated {α : Type} (n : Int) (xs : List α) : List α :=
  (List.replicate n.toNat xs).flatten

/-- A sequence several times over, if the value is a sequence. -/
def repeat? (v : Value) : Option (Int → Value) :=
  match v with
  | text s => some fun n => text (String.ofList (repeated n s.toList))
  | list xs => some fun n => list (repeated n xs)
  | tuple xs => some fun n => tuple (repeated n xs)
  | _ => Option.none

def operands {α : Type} (op : BinaryOp) (a b : Value) : Result α :=
  Result.mistyped (.operands (if op = .pow then "** or pow()" else op.text) a.typeName b.typeName)

/-- Multiplication of which one side is a sequence. -/
def multiply (a b : Value) : Result Value :=
  match a.repeat?, b.repeat? with
  | some f, _ =>
    match b.int? with
    | some n => .ok (f n)
    | Option.none => Result.mistyped (.repetition b.typeName)
  | Option.none, some f =>
    match a.int? with
    | some n => .ok (f n)
    | Option.none => Result.mistyped (.repetition a.typeName)
  | Option.none, Option.none => operands .mul a b

/-- Addition of values that are not both numbers. -/
def concatenate (a b : Value) : Result Value :=
  match a, b with
  | text s, text t => .ok (text (s ++ t))
  | list xs, list ys => .ok (list (xs ++ ys))
  | tuple xs, tuple ys => .ok (tuple (xs ++ ys))
  | text _, _ | list _, _ | tuple _, _ => Result.mistyped (.concatenation a.typeName b.typeName)
  | _, _ => operands .add a b

/-- A binary operation, apart from the formatting of texts. -/
def operate (op : BinaryOp) (a b : Value) : Result Value := do
  a.defined
  b.defined
  match a.int?, b.int? with
  | some m, some n => intOperation op m n
  | _, _ =>
    match a.toReal?, b.toReal? with
    | some x, some y => realOperation op (← x) (← y)
    | _, _ =>
      match op with
      | .add => concatenate a b
      | .mul => multiply a b
      | op => operands op a b

def negate (v : Value) : Result Value := do
  v.defined
  match v with
  | real x => return real (-x)
  | v =>
    match v.int? with
    | some n => return int (-n)
    | Option.none => Result.mistyped (.operand "-" v.typeName)

def affirm (v : Value) : Result Value := do
  v.defined
  match v with
  | real x => return real x
  | v =>
    match v.int? with
    | some n => return int n
    | Option.none => Result.mistyped (.operand "+" v.typeName)

/-! ## Comparison -/

def holds (op : Comparison) : Ordering → Bool :=
  match op with
  | .lt => fun o => o = .lt
  | .le => fun o => o ≠ .gt
  | .gt => fun o => o = .gt
  | .ge => fun o => o ≠ .lt
  | _ => fun o => o = .eq

def orderText : Comparison → String
  | .lt => "<"
  | .le => "<="
  | .gt => ">"
  | .ge => ">="
  | _ => "=="

mutual

/-- An order comparison; sequences are ordered by their first difference. -/
def ordered (op : Comparison) : Value → Value → Result Bool
  | undefined why, _ => .error (.undefined why)
  | list xs, list ys => orderedItems op xs ys
  | tuple xs, tuple ys => orderedItems op xs ys
  | text s, text t => .ok (holds op (compare s t))
  | a, b =>
    match b with
    | undefined why => .error (.undefined why)
    | b =>
      if a.isNumber && b.isNumber then .ok ((compareNumbers a b).any (holds op))
      else Result.mistyped (.order (orderText op) a.typeName b.typeName)

def orderedItems (op : Comparison) : List Value → List Value → Result Bool
  | x :: xs, y :: ys => if x.eq y then orderedItems op xs ys else ordered op x y
  | [], [] => .ok (holds op .eq)
  | [], _ :: _ => .ok (holds op .lt)
  | _ :: _, [] => .ok (holds op .gt)

end

/-- Membership: part of a text, item of a sequence, key of a dictionary. -/
def contains (container v : Value) : Result Bool :=
  match container with
  | text s =>
    match v with
    | text t => .ok (t.isEmpty || Text.contains t.toList s.toList)
    | v => Result.mistyped (.textSought v.typeName)
  | dict entries =>
    match v.unhashable? with
    | some t => Result.mistyped (.unhashable t)
    | Option.none => .ok (valueOf? entries v).isSome
  | c =>
    match c.items? with
    | some items => .ok (items.any fun i => i.eq v)
    | Option.none => Result.mistyped (.noContainer c.typeName)

def compares (op : Comparison) (a b : Value) : Result Bool :=
  match op with
  | .eq => .ok (a.eq b)
  | .ne => .ok (!a.eq b)
  | .isIn => contains b a
  | .notIn => (contains b a).map (!·)
  | op => ordered op a b

/-! ## Parts -/

/-- The number of items. -/
def length (v : Value) : Result Nat :=
  match v with
  | text s => .ok s.length
  | v =>
    match v.items? with
    | some items => .ok items.length
    | Option.none => Result.mistyped (.noLength v.typeName)

/-- The item at an index, which counts from the end if it is negative. -/
def itemAt? {α : Type} (items : List α) (n : Int) : Option α :=
  let i := if n < 0 then n + items.length else n
  if i < 0 then Option.none else items[i.toNat]?

/-- A bound of a slice, moved into `low` to `high`. -/
def clamp (low high length n : Int) : Int :=
  let n := if n < 0 then n + length else n
  max low (min high n)

/-- The indices of a slice. -/
def sliceIndices (length : Nat) (start stop step : Option Int) : Result (List Nat) :=
  let n : Int := length
  let step := step.getD 1
  if step = 0 then Result.invalid .zeroStep
  else if 0 < step then
    let a := (start.map (clamp 0 n n)).getD 0
    let b := (stop.map (clamp 0 n n)).getD n
    .ok ((rangeItems a b step).map Int.toNat)
  else
    let a := (start.map (clamp (-1) (n - 1) n)).getD (n - 1)
    let b := (stop.map (clamp (-1) (n - 1) n)).getD (-1)
    .ok ((rangeItems a b step).map Int.toNat)

/-- A bound of a slice as a number. -/
def bound? : Option Value → Result (Option Int)
  | Option.none | some none => .ok Option.none
  | some (undefined why) => .error (.undefined why)
  | some v =>
    match v.int? with
    | some n => .ok (some n)
    | Option.none => Result.mistyped .sliceIndex

def sliced (v : Value) (start stop step : Option Value) : Result Value := do
  v.defined
  let pick {α : Type} (xs : List α) : Result (List α) := do
    let indices ← sliceIndices xs.length (← bound? start) (← bound? stop) (← bound? step)
    return indices.filterMap (xs[·]?)
  match v with
  | text s => return text (String.ofList (← pick s.toList))
  | list xs => return list (← pick xs)
  | tuple xs => return tuple (← pick xs)
  | dict _ => Result.mistyped (.unhashable "slice")
  | v => Result.mistyped (.noItems v.typeName)

end TopicShell.Template.Value
