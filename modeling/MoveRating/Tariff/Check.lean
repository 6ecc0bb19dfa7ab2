import MoveRating.Tariff.Basic
import MoveRating.Discount

/-!
# Checked tables

The rules that the tables of a tariff must keep so that a price never hangs on an accident: no
bracket is empty, discounts lie between zero and one, and the effective ranges of one service area,
or of one route, are not empty and do not overlap.

* `rangeFault?` is the first fault among the ranges of one key, if there is any.
* `Tables.violation?` is the first violation of the rules.
-/

namespace MoveRating

/-- A fault among the effective ranges of one key. -/
inductive RangeFault where
  /-- The range is empty. -/
  | empty (r : EffectiveRange)
  /-- The second range overlaps the first, which stands before it. -/
  | overlap (a b : EffectiveRange)
deriving DecidableEq, Repr

/-- A range as text. -/
def EffectiveRange.text (r : EffectiveRange) : String := s!"[{r.lower.text}, {r.upper.text})"

/-- The wording of a fault among ranges. -/
def RangeFault.message : RangeFault → String
  | empty r => s!"empty effective range {r.text}"
  | overlap a b => s!"effective range {a.text} overlaps {b.text}"

/-- The first fault among ranges: each in turn must not be empty nor overlap a later one. -/
def rangeFault? : List EffectiveRange → Option RangeFault
  | [] => none
  | r :: later =>
    if r.isEmpty then some (.empty r)
    else
      match later.find? r.overlaps with
      | some other => some (.overlap r other)
      | none => rangeFault? later

/-- A violation of the rules. -/
inductive Violation where
  /-- A longhaul bracket is empty. -/
  | emptyBracket (r : BaseLinehaulRate)
  /-- A shorthaul bracket is empty. -/
  | emptyShorthaulBracket (r : ShorthaulRate)
  /-- A discount is refused. -/
  | discountRate (why : RatingError)
  /-- The ranges of a service area are at fault. -/
  | serviceArea (code : UInt32) (fault : RangeFault)
  /-- The ranges of a route are at fault. -/
  | route (originRateArea : String) (destinationRegion : UInt32) (fault : RangeFault)
deriving DecidableEq, Repr

/-- The wording of a violation. -/
def Violation.message : Violation → String
  | emptyBracket r =>
    let miles := Numeral.text r.milesLower.toNat ++ ", " ++ Numeral.text r.milesUpper.toNat
    let cwt := Numeral.signedText r.cwtLower.toInt ++ ", " ++ Numeral.signedText r.cwtUpper.toInt
    "empty bracket miles [" ++ miles ++ ") cwt [" ++ cwt ++ ")"
  | emptyShorthaulBracket r =>
    "empty bracket cwt-miles [" ++ Numeral.signedText r.cwtMilesLower.toInt ++ ", " ++
      Numeral.signedText r.cwtMilesUpper.toInt ++ ")"
  | discountRate why => why.message
  | serviceArea code fault => "service area " ++ Numeral.text code.toNat ++ ": " ++ fault.message
  | route area region fault =>
    "route " ++ area ++ " -> region " ++ Numeral.text region.toNat ++ ": " ++ fault.message

/-- The bracket covers nothing. -/
def BaseLinehaulRate.isEmpty (r : BaseLinehaulRate) : Bool :=
  decide (r.milesUpper ≤ r.milesLower) || decide (r.cwtUpper ≤ r.cwtLower)

/-- The bracket covers nothing. -/
def ShorthaulRate.isEmpty (r : ShorthaulRate) : Bool := decide (r.cwtMilesUpper ≤ r.cwtMilesLower)

/-- The refusal of a discount of a row, if one of its two is refused. -/
def RouteDiscountRate.refusal? (r : RouteDiscountRate) : Option RatingError :=
  [r.linehaulRate, r.sitRate].findSome? fun fraction =>
    match DiscountRate.ofFraction fraction with
    | .ok _ => none
    | .error why => some why

/-- The rows of the six tables. -/
structure Tables where
  zip3s : List Zip3
  distances : List ZipDistance
  serviceAreas : List ServiceAreaRate
  baseLinehaul : List BaseLinehaulRate
  shorthaul : List ShorthaulRate
  discounts : List RouteDiscountRate
deriving DecidableEq, Repr

namespace Tables

/-- All rows, table by table. -/
def rows (t : Tables) : List TariffRow :=
  t.zip3s.map .zip3 ++ t.distances.map .distance ++ t.serviceAreas.map .serviceArea ++
    t.baseLinehaul.map .baseLinehaul ++ t.shorthaul.map .shorthaul ++ t.discounts.map .discount

/-- The tariff that holds the rows. -/
def toTariff (t : Tables) : Tariff := Tariff.empty.addAll t.rows

/-- The first fault among the ranges of the service areas. -/
def serviceAreaFault? (t : Tariff) : Option Violation :=
  t.serviceAreas.entries.findSome? fun (code, rows) =>
    (rangeFault? (rows.map (·.effective))).map (.serviceArea code)

/-- The first fault among the ranges of the routes. -/
def routeFault? (t : Tariff) : Option Violation :=
  t.discounts.entries.findSome? fun ((area, region), rows) =>
    (rangeFault? (rows.map (·.effective))).map (.route area region)

/-- The first violation of the rules, and the table that it lies in. -/
def violation? (t : Tables) : Option (TariffTable × Violation) :=
  ((t.baseLinehaul.find? (·.isEmpty)).map fun r => (.baseLinehaul, .emptyBracket r)) <|>
  ((t.shorthaul.find? (·.isEmpty)).map fun r => (.shorthaul, .emptyShorthaulBracket r)) <|>
  ((t.discounts.findSome? (·.refusal?)).map fun why => (.discount, .discountRate why)) <|>
  ((serviceAreaFault? t.toTariff).map fun v => (.serviceArea, v)) <|>
  ((routeFault? t.toTariff).map fun v => (.discount, v))

end Tables

end MoveRating
