import TopicShell.Number.Ratio

/-!
# Shortest decimals

A binary number stands for the interval of all reals that round to it.  `shortest` gives the
decimal with the fewest digits in that interval, and of these the one next to the number.  The
points of a decimal grid that can lie in the interval are the two neighbours of the number, so only
they are tried, first on the coarsest grid.
-/

namespace TopicShell.Number

/-- `mantissa · 2 ^ exponent`.  Below the least mantissa of its size the numbers are twice as
dense (`dense`). -/
structure Binary where
  mantissa : Nat
  exponent : Int
  dense : Bool := false
  deriving DecidableEq

/-- `digits · 10 ^ exponent`. -/
structure Decimal where
  digits : Nat
  exponent : Int
  deriving DecidableEq

namespace Binary

def ratio (b : Binary) : Ratio :=
  (Ratio.mk b.mantissa 1).scale2 b.exponent

/-- The ends of the interval. -/
def low (b : Binary) : Ratio :=
  (Ratio.mk (4 * b.mantissa - (if b.dense then 1 else 2)) 1).scale2 (b.exponent - 2)

def high (b : Binary) : Ratio :=
  (Ratio.mk (4 * b.mantissa + 2) 1).scale2 (b.exponent - 2)

/-- The ends belong to the interval if the mantissa is even. -/
def holds (b : Binary) (r : Ratio) : Bool :=
  if b.mantissa % 2 = 0 then b.low.le r && r.le b.high
  else !r.le b.low && !b.high.le r

/-- The point of the grid with step `10 ^ k` that is next to the number, if it is in the interval. -/
def onGrid? (b : Binary) (k : Int) : Option Decimal :=
  let scaled := b.ratio.scale10 (-k)
  let inside := fun d => b.holds ((Ratio.mk d 1).scale10 k)
  let near := scaled.round
  let far := if near = scaled.floor then near + 1 else scaled.floor
  if inside near then some ⟨near, k⟩
  else if inside far then some ⟨far, k⟩
  else none

/-- A positive number with the fewest digits that still round to it. -/
def shortest (b : Binary) : Decimal :=
  let top := b.ratio.magnitude
  ((List.range 17).findSome? fun (n : Nat) => b.onGrid? (top - n)).getD ⟨0, 0⟩

end Binary

/-- Moves zeros at the end of the digits into the exponent. -/
def Decimal.strip : Nat → Decimal → Decimal
  | 0, d => d
  | fuel + 1, d =>
    if d.digits ≠ 0 && d.digits % 10 = 0 then strip fuel ⟨d.digits / 10, d.exponent + 1⟩ else d

/-- The digits without zeros at the end. -/
def Decimal.normal (d : Decimal) : Decimal :=
  d.strip (d.digits.log2 + 1)

example : (Binary.mk 3602879701896397 (-55) false).shortest = ⟨1, -1⟩ := by decide +kernel
example : (Binary.mk 1 (-1074) false).shortest = ⟨5, -324⟩ := by decide +kernel
example : (Binary.mk (2 ^ 52) (-52) true).shortest = ⟨1, 0⟩ := by decide +kernel

end TopicShell.Number
