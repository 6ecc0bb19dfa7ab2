import MoveRating.Units
import MoveRating.EffectiveRange
import MoveRating.Decimal.Basic

/-!
# Rows of a tariff

The rows of the six tables. Brackets hold their lower bound and not their upper one, as effective
ranges do; rates are in cents per hundredweight.
-/

namespace MoveRating

/-- The rating geography of a three-digit postal area. -/
structure Zip3 where
  /-- The three digits. -/
  zip3 : UInt32
  /-- The city that distances are measured from. -/
  basepointCity : String
  /-- The state. -/
  state : String
  /-- The service area whose rates apply. -/
  serviceArea : UInt32
  /-- The rate area, by which discounts know an origin. -/
  rateArea : String
  /-- The region, by which discounts know a destination. -/
  region : UInt32
deriving DecidableEq, Repr

/-- The distance from one postal area to another, in that direction. -/
structure ZipDistance where
  /-- The area of the origin. -/
  originZip3 : UInt32
  /-- The area of the destination. -/
  destinationZip3 : UInt32
  /-- The distance in miles. -/
  miles : UInt32
deriving DecidableEq, Repr

/-- The rates of a service area over a range of dates. -/
structure ServiceAreaRate where
  /-- The code of the service area. -/
  serviceArea : UInt32
  /-- The name of the service area. -/
  name : String
  /-- The linehaul factor. -/
  linehaulFactor : Cents
  /-- The service charge at either end. -/
  serviceCharge : Cents
  /-- The first day of storage in transit. -/
  sitFirstDay : Cents
  /-- Each further day of storage in transit. -/
  sitAdditionalDay : Cents
  /-- Pickup and delivery for storage at the origin. -/
  sitPickupDelivery : Cents
  /-- The days on which the row applies. -/
  effective : EffectiveRange
deriving DecidableEq, Repr

/-- The longhaul rate of a bracket of miles and hundredweights. -/
structure BaseLinehaulRate where
  /-- The lowest mileage in the bracket. -/
  milesLower : UInt32
  /-- The first mileage above the bracket. -/
  milesUpper : UInt32
  /-- The lowest weight in the bracket. -/
  cwtLower : Int64
  /-- The first weight above the bracket. -/
  cwtUpper : Int64
  /-- The rate. -/
  rate : Cents
deriving DecidableEq, Repr

/-- The shorthaul rate of a bracket of hundredweight-miles. -/
structure ShorthaulRate where
  /-- The lowest figure in the bracket. -/
  cwtMilesLower : Int64
  /-- The first figure above the bracket. -/
  cwtMilesUpper : Int64
  /-- The rate. -/
  rate : Cents
deriving DecidableEq, Repr

/-- The discounts of a route over a range of dates. -/
structure RouteDiscountRate where
  /-- The rate area of the origin. -/
  originRateArea : String
  /-- The region of the destination. -/
  destinationRegion : UInt32
  /-- The fraction taken off linehaul and service charges. -/
  linehaulRate : Decimal
  /-- The fraction taken off storage in transit. -/
  sitRate : Decimal
  /-- The days on which the row applies. -/
  effective : EffectiveRange
deriving DecidableEq, Repr

/-- The bracket covers a mileage and a weight. -/
def BaseLinehaulRate.covers (r : BaseLinehaulRate) (miles : UInt32) (cwt : Int64) : Bool :=
  decide (r.milesLower ≤ miles) && decide (miles < r.milesUpper) &&
    (decide (r.cwtLower ≤ cwt) && decide (cwt < r.cwtUpper))

/-- The bracket covers a figure of hundredweight-miles. -/
def ShorthaulRate.covers (r : ShorthaulRate) (cwtMiles : Int64) : Bool :=
  decide (r.cwtMilesLower ≤ cwtMiles) && decide (cwtMiles < r.cwtMilesUpper)

/-- A row that applies over a range of dates. -/
class EffectiveDated (ρ : Type) where
  /-- The days on which the row applies. -/
  effective : ρ → EffectiveRange

instance : EffectiveDated ServiceAreaRate := ⟨ServiceAreaRate.effective⟩

instance : EffectiveDated RouteDiscountRate := ⟨RouteDiscountRate.effective⟩

end MoveRating
