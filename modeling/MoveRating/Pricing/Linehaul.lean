import MoveRating.Tariff.Basic
import MoveRating.Tariff.Selection

/-!
# Linehaul

The charge for carrying a shipment: transportation by the table that the mileage selects, and a
linehaul factor at each end.

* `Tariff.transportation` prices the mileage and weight by the first bracket that covers them.
* `Tariff.linehaulFactor` and `Tariff.serviceCharge` are charges of the service area at one end.
* `Tariff.linehaulCost` itemizes the whole charge.
-/

namespace MoveRating

/-- An itemized linehaul charge. -/
structure LinehaulCost where
  /-- The mileage. -/
  mileage : UInt32
  /-- The weight charged for. -/
  cwt : Cwt
  /-- The kind of haul. -/
  haul : Haul
  /-- The transportation charge. -/
  transportation : Cents
  /-- The linehaul factor at the origin. -/
  originFactor : Cents
  /-- The linehaul factor at the destination. -/
  destinationFactor : Cents
  /-- The sum of the three charges. -/
  total : Cents
deriving DecidableEq, Repr

namespace Tariff

/-- A looked-up value, or the refusal that a table has none under the key. -/
def require {α : Type} (table : TariffTable) (key : String) : Option α → Except RatingError α
  | some a => .ok a
  | none => .error (.noRow table key)

/-- The row of a postal area. -/
def zip3Row (t : Tariff) (zip3 : UInt32) : Except RatingError Zip3 :=
  require .zip3 (Numeral.text zip3.toNat) (t.zip3? zip3)

/-- The row in effect for the service area of a postal area. -/
def serviceAreaFor (t : Tariff) (zip3 : UInt32) (date : Date) :
    Except RatingError ServiceAreaRate := do
  let row ← t.zip3Row zip3
  selectEffective (t.serviceAreaRates row.serviceArea) .serviceArea
    (Numeral.text row.serviceArea.toNat) date

/-- The miles between two postal areas. -/
def milesBetween (t : Tariff) (origin destination : UInt32) : Except RatingError UInt32 :=
  require .distance (Numeral.text origin.toNat ++ " -> " ++ Numeral.text destination.toNat)
    (t.distance? origin destination)

/-- The miles between the postal areas of two postal codes. -/
def milesBetweenCodes (t : Tariff) (origin destination : UInt32) : Except RatingError UInt32 :=
  t.milesBetween (zip3Of origin) (zip3Of destination)

/-- The longhaul charge, by the first bracket that covers mileage and weight. -/
def baseLinehaulCharge (t : Tariff) (mileage : UInt32) (cwt : Cwt) : Priced Cents := do
  let key := Numeral.text mileage.toNat ++ " miles, " ++ cwt.text
  let bracket ← require .baseLinehaul key (t.baseLinehaul.find? (·.covers mileage cwt.val))
  bracket.rate.perCwt cwt

/-- The shorthaul charge, by the first bracket that covers mileage times weight. -/
def shorthaulCharge (t : Tariff) (mileage : UInt32) (cwt : Cwt) : Priced Cents := do
  let cwtMiles ← checkedMul (Int64.ofNat mileage.toNat) cwt.val
  let key := Numeral.signedText cwtMiles.toInt ++ " cwt-miles"
  let bracket ← require .shorthaul key (t.shorthaul.find? (·.covers cwtMiles))
  bracket.rate.perCwt cwt

/-- The kind of haul and its transportation charge. -/
def transportation (t : Tariff) (mileage : UInt32) (cwt : Cwt) : Priced (Haul × Cents) :=
  match Haul.ofMiles mileage with
  | .longhaul => return (.longhaul, ← t.baseLinehaulCharge mileage cwt)
  | .shorthaul => return (.shorthaul, ← t.shorthaulCharge mileage cwt)

/-- The linehaul factor charge at one end. -/
def linehaulFactor (t : Tariff) (cwt : Cwt) (zip3 : UInt32) (date : Date) : Priced Cents := do
  let area ← t.serviceAreaFor zip3 date
  area.linehaulFactor.perCwt cwt

/-- The service charge at one end. -/
def serviceCharge (t : Tariff) (cwt : Cwt) (zip3 : UInt32) (date : Date) : Priced Cents := do
  let area ← t.serviceAreaFor zip3 date
  area.serviceCharge.perCwt cwt

/-- A weight must not be negative. -/
def checkWeight (weight : Pounds) : Except RatingError Unit :=
  if weight.val < 0 then
    .error (.invalidInput "weight" (Numeral.signedText weight.val.toInt ++ " lbs is negative"))
  else .ok ()

/-- The itemized linehaul charge between two postal areas. -/
def linehaulCost (t : Tariff) (weight : Pounds) (origin destination : UInt32) (date : Date) :
    Priced LinehaulCost := do
  checkWeight weight
  let mileage ← t.milesBetween origin destination
  let cwt := weight.toCwt
  let (haul, transportation) ← t.transportation mileage cwt
  let originFactor ← t.linehaulFactor cwt origin date
  let destinationFactor ← t.linehaulFactor cwt destination date
  let total ← (← transportation.add originFactor).add destinationFactor
  return { mileage, cwt, haul, transportation, originFactor, destinationFactor, total }

/-- The whole linehaul charge between two postal areas. -/
def linehaulTotal (t : Tariff) (weight : Pounds) (origin destination : UInt32) (date : Date) :
    Priced Cents :=
  LinehaulCost.total <$> t.linehaulCost weight origin destination date

end Tariff

end MoveRating
