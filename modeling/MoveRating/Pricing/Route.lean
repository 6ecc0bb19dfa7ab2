import MoveRating.Discount
import MoveRating.Pricing.Linehaul

/-!
# Discounts of a route

`Tariff.resolveDiscount` finds the discounts that a route has on a date. A route is known by the
rate area of its origin and the region of its destination.
-/

namespace MoveRating

namespace Tariff

/-- The discounts of a row, both of which must lie between zero and one. -/
def rowDiscount (row : RouteDiscountRate) : Except RatingError RouteDiscount := do
  let linehaul ← DiscountRate.ofFraction row.linehaulRate
  let sit ← DiscountRate.ofFraction row.sitRate
  return { linehaul, sit }

/-- The refusal of a route that has no row on the date is that it has no discount. -/
def missingDiscount (origin destination : UInt32) (date : Date) : RatingError → RatingError
  | .noRow .. | .noRateForDate .. => .noDiscount origin destination date
  | other => other

/-- The discounts between two postal codes on a date. -/
def resolveDiscount (t : Tariff) (origin destination : UInt32) (date : Date) :
    Except RatingError RouteDiscount := do
  let originRow ← t.zip3Row (zip3Of origin)
  let destinationRow ← t.zip3Row (zip3Of destination)
  let rows := t.routeDiscounts originRow.rateArea destinationRow.region
  let key := originRow.rateArea ++ " -> region " ++ Numeral.text destinationRow.region.toNat
  let row ← (selectEffective rows .discount key date).mapError
    (missingDiscount (zip3Of origin) (zip3Of destination) date)
  rowDiscount row

end Tariff

end MoveRating
