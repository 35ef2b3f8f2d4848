/-!
# Ratios of natural numbers

`roundDiv` rounds a quotient to the nearest natural number, ties to the even one.  `Ratio` is a
positive quotient, scaled by powers of ten, with its decimal magnitude.
-/

namespace TopicShell.Number

/-- The natural number next to `n / d`; of two that are equally near the even one. -/
def roundDiv (n d : Nat) : Nat :=
  let q := n / d
  let r := n % d
  if d < 2 * r || (2 * r = d && q % 2 = 1) then q + 1 else q

/-- A quotient; `den` is not zero. -/
structure Ratio where
  num : Nat
  den : Nat

namespace Ratio

/-- The quotient times a power of two. -/
def scale2 (r : Ratio) (e : Int) : Ratio :=
  if 0 ≤ e then { r with num := r.num * Nat.pow 2 e.toNat } else { r with den := r.den * Nat.pow 2 (-e).toNat }

/-- The quotient times a power of ten. -/
def scale10 (r : Ratio) (e : Int) : Ratio :=
  if 0 ≤ e then { r with num := r.num * Nat.pow 10 e.toNat } else { r with den := r.den * Nat.pow 10 (-e).toNat }

def floor (r : Ratio) : Nat :=
  r.num / r.den

def round (r : Ratio) : Nat :=
  roundDiv r.num r.den

def le (a b : Ratio) : Bool :=
  a.num * b.den ≤ b.num * a.den

/-- The quotient is at least `10 ^ k`. -/
def reaches (r : Ratio) (k : Int) : Bool :=
  1 ≤ (r.scale10 (-k)).floor

/-- The largest `k` with `10 ^ k` below a positive quotient, found from the lengths in bits. -/
def magnitude (r : Ratio) : Int :=
  let guess := ((r.num.log2 : Int) - r.den.log2) * 30103 / 100000
  if r.reaches (guess + 1) then guess + 1
  else if r.reaches guess then guess
  else if r.reaches (guess - 1) then guess - 1
  else guess - 2

end Ratio

example : roundDiv 5 2 = 2 ∧ roundDiv 7 2 = 4 ∧ roundDiv 8 3 = 3 := by decide
example : (Ratio.mk 999 1).magnitude = 2 ∧ (Ratio.mk 1 1000).magnitude = -3 := by decide +kernel

end TopicShell.Number
