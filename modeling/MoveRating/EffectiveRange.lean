import MoveRating.Date.Basic

/-!
# Effective ranges

The days on which a row of a tariff applies: from its lower date up to, and without, its upper one.
-/

namespace MoveRating

/-- A half-open range of dates. -/
structure EffectiveRange where
  /-- The first day in the range. -/
  lower : Date
  /-- The first day after the range. -/
  upper : Date
deriving DecidableEq, Repr

namespace EffectiveRange

/-- The range contains a date. -/
def contains (r : EffectiveRange) (d : Date) : Bool := decide (r.lower ≤ d) && decide (d < r.upper)

/-- Each range begins before the other ends. -/
def overlaps (a b : EffectiveRange) : Bool :=
  decide (a.lower < b.upper) && decide (b.lower < a.upper)

/-- The range contains no date. -/
def isEmpty (r : EffectiveRange) : Bool := decide (r.upper ≤ r.lower)

end EffectiveRange

end MoveRating
