import MoveRating.Pricing.Storage
import MoveRating.Pricing.Route

/-!
# Estimates

* `Tariff.estimatePpm` itemizes what a personally procured move costs, before and after discounts.
* `Tariff.estimateSit` gives the storage at its destination alone.

Each component is discounted and rounded on its own and then summed.
-/

namespace MoveRating

/-- A move to be estimated. -/
structure PpmEstimateRequest where
  /-- The postal code of the origin. -/
  originZip : UInt32
  /-- The postal code of the destination. -/
  destinationZip : UInt32
  /-- The estimated weight. -/
  weight : Pounds
  /-- The planned date of the move. -/
  plannedMoveDate : Date
  /-- The days of storage at the destination. -/
  daysInStorage : UInt32
deriving DecidableEq, Repr

/-- An itemized estimate of a move. -/
structure PpmEstimate where
  /-- The linehaul charge. -/
  linehaul : LinehaulCost
  /-- The service charge at the origin. -/
  originServiceCharge : Cents
  /-- The service charge at the destination. -/
  destinationServiceCharge : Cents
  /-- The charge for storage at the destination. -/
  sit : Cents
  /-- The discounts of the route. -/
  discount : RouteDiscount
  /-- The linehaul charge after its discount. -/
  linehaulNet : Cents
  /-- The service charges after the linehaul discount. -/
  serviceChargesNet : Cents
  /-- The storage charge after its discount. -/
  sitNet : Cents
  /-- The sum of the charges. -/
  grossTotal : Cents
  /-- The sum of the charges after discounts. -/
  netTotal : Cents
deriving DecidableEq, Repr

/-- An estimate of storage at the destination. -/
structure SitEstimate where
  /-- The storage charge. -/
  gross : Cents
  /-- The discount on it. -/
  discountRate : DiscountRate
  /-- The charge after the discount. -/
  estimate : Cents
deriving DecidableEq, Repr

namespace Tariff

/-- The itemized estimate of a move. -/
def estimatePpm (t : Tariff) (request : PpmEstimateRequest) : Priced PpmEstimate := do
  let origin := zip3Of request.originZip
  let destination := zip3Of request.destinationZip
  let date := request.plannedMoveDate
  let linehaul ← t.linehaulCost request.weight origin destination date
  let originServiceCharge ← t.serviceCharge linehaul.cwt origin date
  let destinationServiceCharge ← t.serviceCharge linehaul.cwt destination date
  let sit ← t.storageCharge linehaul.cwt request.daysInStorage destination date .destination
  let discount ← t.resolveDiscount request.originZip request.destinationZip date
  let linehaulNet ← discount.linehaul.apply linehaul.total
  let serviceCharges ← originServiceCharge.add destinationServiceCharge
  let serviceChargesNet ← discount.linehaul.apply serviceCharges
  let sitNet ← discount.sit.apply sit
  let grossTotal ← linehaul.total.addAll [originServiceCharge, destinationServiceCharge, sit]
  let netTotal ← linehaulNet.addAll [serviceChargesNet, sitNet]
  return { linehaul, originServiceCharge, destinationServiceCharge, sit, discount, linehaulNet,
           serviceChargesNet, sitNet, grossTotal, netTotal }

/-- The estimate of storage at the destination of a move. -/
def estimateSit (t : Tariff) (origin destination : UInt32) (weight : Pounds) (date : Date)
    (days : UInt32) : Priced SitEstimate := do
  checkWeight weight
  let discount ← t.resolveDiscount origin destination date
  let gross ← t.storageCharge weight.toCwt days (zip3Of destination) date .destination
  let estimate ← discount.sit.apply gross
  return { gross, discountRate := discount.sit, estimate }

end Tariff

end MoveRating
