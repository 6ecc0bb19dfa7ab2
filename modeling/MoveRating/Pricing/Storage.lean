import MoveRating.Pricing.Linehaul

/-!
# Storage in transit

The charge for storing a shipment near one end of its move: a first day, each further day, and at
the origin pickup and delivery.
-/

namespace MoveRating

/-- The end of the move at which a shipment is stored. -/
inductive StorageEnd where
  | origin
  | destination
deriving DecidableEq, Repr

namespace Tariff

/-- The storage charge by the rates of one service area, for at least one day. -/
def storageByArea (area : ServiceAreaRate) (cwt : Cwt) (days : UInt32) (stored : StorageEnd) :
    Except Overflow Cents := do
  let firstDay ← area.sitFirstDay.perCwt cwt
  let cwtDays ← checkedMul (Int64.ofNat (days.toNat - 1)) cwt.val
  let total ← firstDay.add (← area.sitAdditionalDay.times cwtDays)
  match stored with
  | .destination => return total
  | .origin => total.add (← area.sitPickupDelivery.perCwt cwt)

/-- The storage charge for a weight and a number of days; no days cost nothing. -/
def storageCharge (t : Tariff) (cwt : Cwt) (days : UInt32) (zip3 : UInt32) (date : Date)
    (stored : StorageEnd) : Priced Cents := do
  if cwt.val < 0 then
    throw (.refused (.invalidInput "cwt" (cwt.text ++ " is negative")))
  if days = 0 then return .zero
  let area ← t.serviceAreaFor zip3 date
  storageByArea area cwt days stored

end Tariff

end MoveRating
