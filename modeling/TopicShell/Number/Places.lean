import TopicShell.Number.Real

/-!
# Numbers with a given number of places

Three ways of writing a magnitude: `fixed` with a number of places after the point, `scientific`
with one digit before the point and an exponent, `general` with a number of significant digits in
the shorter of the two.  Digits are rounded once from the exact value, ties to the even digit.
-/

namespace TopicShell.Number

/-- The decimal text of a number with at least `width` digits. -/
def paddedDigits (width n : Nat) : List Char :=
  let ds := digitsOf n
  List.replicate (width - ds.length) '0' ++ ds

/-- Digits with the point in front of the last `places`; `keep` also keeps a point at the end. -/
def pointed (keep : Bool) (places : Nat) (ds : List Char) : List Char :=
  let whole := ds.take (ds.length - places)
  let rest := ds.drop (ds.length - places)
  if rest.isEmpty then (if keep then whole ++ ['.'] else whole) else whole ++ '.' :: rest

def fixed (keep : Bool) (places : Nat) (r : Ratio) : List Char :=
  pointed keep places (paddedDigits (places + 1) (r.scale10 places).round)

/-- The digits and the exponent of a magnitude rounded to some places after the first digit. -/
def rounded (places : Nat) (r : Ratio) : List Char × Int :=
  if r.num = 0 then (List.replicate (places + 1) '0', 0)
  else
    let top := r.magnitude
    let ds := digitsOf (r.scale10 (places - top)).round
    if ds.length ≤ places + 1 then (ds, top) else (ds.take (places + 1), top + 1)

def scientific (keep : Bool) (mark : Char) (places : Nat) (r : Ratio) : List Char :=
  let (ds, e) := rounded places r
  pointed keep places ds ++ exponentText mark e

/-- Without zeros at the end of the fraction, and without a point at the end. -/
def withoutZeros (cs : List Char) : List Char :=
  if cs.contains '.' then
    let kept := (cs.reverse.dropWhile (· = '0')).reverse
    if kept.getLast? = some '.' then kept.dropLast else kept
  else cs

def general (keep : Bool) (mark : Char) (digits : Nat) (r : Ratio) : List Char :=
  let digits := max digits 1
  let (ds, e) := rounded (digits - 1) r
  let tidy := fun cs => if keep then cs else withoutZeros cs
  if -4 ≤ e && e < digits then tidy (fixed keep ((digits : Int) - 1 - e).toNat r)
  else tidy (pointed keep (digits - 1) ds) ++ exponentText mark e

end TopicShell.Number
