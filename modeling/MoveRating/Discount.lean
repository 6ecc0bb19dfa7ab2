import MoveRating.Units
import MoveRating.Decimal.Text
import MoveRating.RatingError

/-!
# Discounts

A discount is the fraction of a charge that is taken off.

* `DiscountRate.ofFraction` and `DiscountRate.ofBasisPoints` accept fractions from zero to one.
* `DiscountRate.apply` is the charge left after the discount, in whole cents, with a half cent
  rounded away from zero.
* `DiscountRate.percent` writes the rate as a percentage, as in `12.5%`.
-/

namespace MoveRating

/-- The fraction of a charge that a discount takes off. -/
structure DiscountRate where
  /-- The fraction. -/
  fraction : Decimal
deriving DecidableEq, Repr

namespace DiscountRate

/-- No discount. -/
def zero : DiscountRate := ⟨.zero⟩

/-- The rate of a fraction, which must lie between zero and one. -/
def ofFraction (fraction : Decimal) : Except RatingError DiscountRate :=
  if fraction.isUnit then .ok ⟨fraction⟩
  else .error (.invalidInput "discount_rate" s!"{fraction.text} is outside [0, 1]")

/-- The rate of a number of ten thousandths, which must not exceed ten thousand. -/
def ofBasisPoints (points : UInt32) : Except RatingError DiscountRate :=
  ofFraction (.ofBasisPoints points)

/-- A decimal result, or the overflow for which there is none. -/
def orOverflow {α : Type} (what : Overflow) : Option α → Except Overflow α
  | some a => .ok a
  | none => .error what

/-- What is left of a charge, in whole cents. The word keeps the low 64 bits of the result. -/
def apply (rate : DiscountRate) (gross : Cents) : Except Overflow Cents := do
  let kept ← orOverflow .decimalDifference rate.fraction.oneMinus?
  let net ← orOverflow .decimalProduct ((Decimal.ofWord gross.val).mul? kept)
  return ⟨Int64.ofInt net.nearestInt⟩

/-- The rate as a percentage. -/
def percent (rate : DiscountRate) : Except Overflow String := do
  let hundredfold ← orOverflow .decimalProduct (rate.fraction.mul? .hundred)
  return hundredfold.normalize.text ++ "%"

/-- Compares two rates by value. -/
def cmp (a b : DiscountRate) : Ordering := a.fraction.cmp b.fraction

end DiscountRate

/-- The two discounts of a route. -/
structure RouteDiscount where
  /-- The discount on linehaul and service charges. -/
  linehaul : DiscountRate
  /-- The discount on storage in transit. -/
  sit : DiscountRate
deriving DecidableEq, Repr

end MoveRating
