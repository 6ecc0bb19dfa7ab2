import MoveRating.Proofs.Comparison
import MoveRating.Proofs.Rating

/-!
# What an estimate depends on

A tariff has rows for many places, dates and weights. The estimate of one move depends on a few of
them, and on no more of its request than picks these out.

* `PpmEstimateRequest.SameMove`: two requests that differ at most within their postal areas and
  within a hundredweight.
* `Tariff.AgreesAt`: two tariffs say the same about a postal area on a date. `Tariff.AgreesFor`:
  they say the same about a shipment between two of them.
* `estimatePpm_eq_of_agreesFor`: of two such tariffs, two such requests get the same estimate, the
  same refusal or the same overflow.
-/

namespace MoveRating

/-! ### The selection by date -/

section

variable {ρ : Type} [EffectiveDated ρ] {rows rows' : List ρ} {date : Date}
  (h : rows.filter (appliesOn date) = rows'.filter (appliesOn date))

include h

/-- Of the rows that do not apply it counts only whether there are any. -/
theorem selectEffective_congr (hempty : rows.isEmpty = rows'.isEmpty) (table : TariffTable)
    (key : String) :
    selectEffective rows table key date = selectEffective rows' table key date := by
  unfold selectEffective
  rw [h, hempty]

/-- For a discount not even that counts. -/
theorem mapError_selectEffective_congr (table : TariffTable) (key : String)
    (origin destination : UInt32) :
    (selectEffective rows table key date).mapError
        (Tariff.missingDiscount origin destination date) =
      (selectEffective rows' table key date).mapError
        (Tariff.missingDiscount origin destination date) := by
  unfold selectEffective
  rw [h]
  split
  · rfl
  · cases rows.isEmpty <;> cases rows'.isEmpty <;> rfl
  · rfl

end

/-! ### Tariffs that agree -/

/-- What the row of a postal area says for rating. -/
structure Geography where
  /-- The service area whose rates apply. -/
  serviceArea : UInt32
  /-- The rate area, by which discounts know an origin. -/
  rateArea : String
  /-- The region, by which discounts know a destination. -/
  region : UInt32
deriving DecidableEq, Repr

/-- The row without its number and the names of its places. -/
def Zip3.geography (row : Zip3) : Geography := ⟨row.serviceArea, row.rateArea, row.region⟩

namespace Tariff

/-- The tariffs place a postal area alike, or both do not know it. About the service area in which
it lies they agree whether there are any rows, and on those that apply on the date. -/
structure AgreesAt (t t' : Tariff) (zip3 : UInt32) (date : Date) : Prop where
  geography : (t.zip3? zip3).map Zip3.geography = (t'.zip3? zip3).map Zip3.geography
  isEmpty : ∀ row, t.zip3? zip3 = some row →
    (t.serviceAreaRates row.serviceArea).isEmpty = (t'.serviceAreaRates row.serviceArea).isEmpty
  inEffect : ∀ row, t.zip3? zip3 = some row →
    (t.serviceAreaRates row.serviceArea).filter (·.effective.contains date) =
      (t'.serviceAreaRates row.serviceArea).filter (·.effective.contains date)

/-- The tariffs agree on all that rates a shipment of some hundredweights from one postal area to
another on a date. Of the brackets only the first one that holds the shipment counts, in the table
that the mileage selects. -/
structure AgreesFor (t t' : Tariff) (origin destination : UInt32) (cwt : Int) (date : Date) :
    Prop where
  mileage : t.distance? origin destination = t'.distance? origin destination
  atOrigin : t.AgreesAt t' origin date
  atDestination : t.AgreesAt t' destination date
  transportation : ∀ miles, t.distance? origin destination = some miles →
    t.rateFor? miles cwt = t'.rateFor? miles cwt
  discounts : ∀ originRow destinationRow, t.zip3? origin = some originRow →
    t.zip3? destination = some destinationRow →
    (t.routeDiscounts originRow.rateArea destinationRow.region).filter
        (·.effective.contains date) =
      (t'.routeDiscounts originRow.rateArea destinationRow.region).filter
        (·.effective.contains date)

variable {t t' : Tariff}

/-! ### Places -/

/-- The geography of a row, under the number that both tariffs know it by. -/
theorem exists_zip3?_of_map_eq {zip3 : UInt32} {row : Zip3}
    (h : (t.zip3? zip3).map Zip3.geography = (t'.zip3? zip3).map Zip3.geography)
    (hrow : t.zip3? zip3 = some row) :
    ∃ row', t'.zip3? zip3 = some row' ∧ row'.serviceArea = row.serviceArea ∧
      row'.rateArea = row.rateArea ∧ row'.region = row.region := by
  rw [hrow, Option.map_some, eq_comm, Option.map_eq_some_iff] at h
  obtain ⟨row', hrow', heq⟩ := h
  rw [Zip3.geography, Zip3.geography, Geography.mk.injEq] at heq
  exact ⟨row', hrow', heq⟩

theorem zip3?_eq_none_of_map_eq {zip3 : UInt32}
    (h : (t.zip3? zip3).map Zip3.geography = (t'.zip3? zip3).map Zip3.geography)
    (hrow : t.zip3? zip3 = none) : t'.zip3? zip3 = none := by
  rw [hrow, Option.map_none, eq_comm, Option.map_eq_none_iff] at h
  exact h

/-- A postal area that is not in the tariff is refused by its number. -/
theorem zip3Row_eq_of_none {zip3 : UInt32} (h : t.zip3? zip3 = none) :
    t.zip3Row zip3 = .error (.noRow .zip3 (Numeral.text zip3.toNat)) := by
  unfold zip3Row
  rw [h]
  rfl

theorem AgreesAt.serviceAreaFor {zip3 : UInt32} {date : Date} (h : t.AgreesAt t' zip3 date) :
    t.serviceAreaFor zip3 date = t'.serviceAreaFor zip3 date := by
  cases hrow : t.zip3? zip3 with
  | none =>
    unfold Tariff.serviceAreaFor
    rw [zip3Row_eq_of_none hrow, zip3Row_eq_of_none (zip3?_eq_none_of_map_eq h.geography hrow)]
    rfl
  | some row =>
    obtain ⟨row', hrow', harea, -, -⟩ := exists_zip3?_of_map_eq h.geography hrow
    rw [serviceAreaFor_eq_of_zip3? hrow, serviceAreaFor_eq_of_zip3? hrow', harea]
    exact selectEffective_congr (h.inEffect row hrow) (h.isEmpty row hrow) _ _

section

variable {origin destination : UInt32} {cwt : Int} {date : Date}

theorem AgreesFor.milesBetween (h : t.AgreesFor t' origin destination cwt date) :
    t.milesBetween origin destination = t'.milesBetween origin destination := by
  unfold Tariff.milesBetween
  rw [h.mileage]

theorem AgreesFor.resolveDiscount {origin destination : UInt32}
    (h : t.AgreesFor t' (zip3Of origin) (zip3Of destination) cwt date) :
    t.resolveDiscount origin destination date = t'.resolveDiscount origin destination date := by
  cases ho : t.zip3? (zip3Of origin) with
  | none =>
    have ho' := zip3?_eq_none_of_map_eq h.atOrigin.geography ho
    unfold Tariff.resolveDiscount
    rw [zip3Row_eq_of_none ho, zip3Row_eq_of_none ho']
    rfl
  | some originRow =>
    obtain ⟨originRow', ho', -, harea, -⟩ := exists_zip3?_of_map_eq h.atOrigin.geography ho
    cases hd : t.zip3? (zip3Of destination) with
    | none =>
      have hd' := zip3?_eq_none_of_map_eq h.atDestination.geography hd
      unfold Tariff.resolveDiscount
      rw [zip3Row_eq_ok_iff.2 ho, zip3Row_eq_ok_iff.2 ho', zip3Row_eq_of_none hd,
        zip3Row_eq_of_none hd']
      rfl
    | some destinationRow =>
      obtain ⟨destinationRow', hd', -, -, hregion⟩ :=
        exists_zip3?_of_map_eq h.atDestination.geography hd
      rw [resolveDiscount_eq_of_zip3? ho hd, resolveDiscount_eq_of_zip3? ho' hd', harea, hregion]
      rw [mapError_selectEffective_congr (h.discounts originRow destinationRow ho hd)]

end

/-! ### Transportation -/

/-- Two computations are the same if they are one reckoning in words. -/
theorem eq_of_inWords {x x' : Priced Cents} {y : Reckoning Int} (h : InWords Cents.toInt x y)
    (h' : InWords Cents.toInt x' y) : x = x' := by
  have hmap : Cents.toInt <$> x = Cents.toInt <$> x' := Eq.trans h (Eq.symm h')
  cases x with
  | error e =>
    rw [eq_comm, map_eq_error_iff.2 rfl, map_eq_error_iff] at hmap
    exact hmap.symm
  | ok charge =>
    obtain ⟨charge', hcharge, heq⟩ := map_eq_ok_iff.1 (Eq.symm hmap)
    rw [hcharge, Cents.toInt_inj.1 heq]

/-- The transportation charge depends on one rate of the tariff. -/
theorem transportation_congr {miles : UInt32} {cwt : Cwt}
    (h : t.rateFor? miles cwt.toInt = t'.rateFor? miles cwt.toInt) :
    t.transportation miles cwt = t'.transportation miles cwt := by
  unfold rateFor? at h
  by_cases hmiles : miles.toNat < 800
  · rw [if_pos hmiles, if_pos hmiles] at h
    have hreckon : t.reckonShorthaul miles cwt = t'.reckonShorthaul miles cwt := by
      unfold reckonShorthaul
      rw [Reckoning.bind_of_ok (Reckoning.result_figure _ _),
        Reckoning.bind_of_ok (Reckoning.result_figure _ _), h]
    have hcharge := inWords_shorthaulCharge (t := t) miles cwt
    rw [hreckon] at hcharge
    unfold Tariff.transportation
    rw [ofMiles_of_lt hmiles, eq_of_inWords hcharge (inWords_shorthaulCharge miles cwt)]
  · rw [if_neg hmiles, if_neg hmiles] at h
    have hreckon : t.reckonLonghaul miles cwt = t'.reckonLonghaul miles cwt := by
      unfold reckonLonghaul
      rw [h]
    have hcharge := inWords_baseLinehaulCharge (t := t) miles cwt
    rw [hreckon] at hcharge
    unfold Tariff.transportation
    rw [ofMiles_of_not_lt hmiles, eq_of_inWords hcharge (inWords_baseLinehaulCharge miles cwt)]

end Tariff

/-! ### Requests for the same move -/

/-- The requests are for moves between the same postal areas, of as many hundredweights, on the same
date and with as many days of storage. Neither weight is negative. -/
structure PpmEstimateRequest.SameMove (q q' : PpmEstimateRequest) : Prop where
  origin : q.originZip / 100 = q'.originZip / 100
  destination : q.destinationZip / 100 = q'.destinationZip / 100
  cwt : q.weight.toInt / 100 = q'.weight.toInt / 100
  date : q.plannedMoveDate = q'.plannedMoveDate
  days : q.daysInStorage = q'.daysInStorage
  weight_nonneg : 0 ≤ q.weight.toInt
  weight_nonneg' : 0 ≤ q'.weight.toInt

theorem Pounds.toCwt_congr {p p' : Pounds} (hp : 0 ≤ p.toInt) (hp' : 0 ≤ p'.toInt)
    (h : p.toInt / 100 = p'.toInt / 100) : p.toCwt = p'.toCwt := by
  have hval : p.toCwt.toInt = p'.toCwt.toInt := by
    rw [Pounds.toInt_toCwt hp, Pounds.toInt_toCwt hp', h]
  exact congrArg Cwt.mk (Int64.toInt_inj.1 hval)

/-- Of a weight that is not negative the hundredweights alone count. -/
theorem linehaulCost_congr (t : Tariff) {weight weight' : Pounds} (h : 0 ≤ weight.toInt)
    (h' : 0 ≤ weight'.toInt) (hcwt : weight.toCwt = weight'.toCwt) (origin destination : UInt32)
    (date : Date) :
    t.linehaulCost weight origin destination date =
      t.linehaulCost weight' origin destination date := by
  have hchecked : Tariff.checkWeight weight = Tariff.checkWeight weight' :=
    (Tariff.checkWeight_eq_ok_iff.2 h).trans (Tariff.checkWeight_eq_ok_iff (u := ()).2 h').symm
  unfold Tariff.linehaulCost
  rw [hchecked, hcwt]

/-- Of the postal codes the areas alone count. -/
theorem resolveDiscount_congr (t : Tariff) {origin origin' destination destination' : UInt32}
    (ho : zip3Of origin = zip3Of origin') (hd : zip3Of destination = zip3Of destination')
    (date : Date) :
    t.resolveDiscount origin destination date = t.resolveDiscount origin' destination' date := by
  unfold Tariff.resolveDiscount
  rw [ho, hd]

theorem PpmEstimateRequest.SameMove.estimatePpm {q q' : PpmEstimateRequest} (h : q.SameMove q')
    (t : Tariff) : t.estimatePpm q = t.estimatePpm q' := by
  have ho : zip3Of q.originZip = zip3Of q'.originZip := h.origin
  have hd : zip3Of q.destinationZip = zip3Of q'.destinationZip := h.destination
  have hcwt := Pounds.toCwt_congr h.weight_nonneg h.weight_nonneg' h.cwt
  unfold Tariff.estimatePpm
  simp only [ho, hd, h.date, h.days, linehaulCost_congr t h.weight_nonneg h.weight_nonneg' hcwt,
    resolveDiscount_congr t ho hd]

/-! ### Estimates -/

theorem Tariff.AgreesFor.estimatePpm {t t' : Tariff} {q : PpmEstimateRequest}
    (hweight : 0 ≤ q.weight.toInt)
    (h : t.AgreesFor t' (zip3Of q.originZip) (zip3Of q.destinationZip) (q.weight.toInt / 100)
      q.plannedMoveDate) : t.estimatePpm q = t'.estimatePpm q := by
  have horigin := congrArg (liftM : _ → Priced ServiceAreaRate) h.atOrigin.serviceAreaFor
  have hdestination := congrArg (liftM : _ → Priced ServiceAreaRate) h.atDestination.serviceAreaFor
  have hmiles := congrArg (liftM : _ → Priced UInt32) h.milesBetween
  have hdiscount := congrArg (liftM : _ → Priced RouteDiscount) h.resolveDiscount
  have htransportation : ∀ miles,
      t.milesBetween (zip3Of q.originZip) (zip3Of q.destinationZip) = .ok miles →
      t.transportation miles q.weight.toCwt = t'.transportation miles q.weight.toCwt := by
    intro miles hm
    apply transportation_congr
    rw [Pounds.toInt_toCwt hweight]
    exact h.transportation miles (milesBetween_eq_ok_iff.1 hm)
  have hlinehaul :=
    Comparison.equal.rel_linehaulCost horigin hdestination hmiles htransportation
  exact Comparison.equal.rel_estimatePpm hlinehaul horigin hdestination hdiscount

/-- Two requests for the same move, to two tariffs that agree on what rates it, end alike: with the
same estimate, the same refusal or the same overflow. No other row of either tariff and no other
digit of either request has any influence. -/
theorem estimatePpm_eq_of_agreesFor (t t' : Tariff) (q q' : PpmEstimateRequest)
    (hq : q.SameMove q')
    (ht : t.AgreesFor t' (q.originZip / 100) (q.destinationZip / 100) (q.weight.toInt / 100)
      q.plannedMoveDate) : t.estimatePpm q = t'.estimatePpm q' :=
  (ht.estimatePpm hq.weight_nonneg).trans (hq.estimatePpm t')

/-- The sample move from another street, with another 99 pounds. -/
def PpmEstimateRequest.nearSample : PpmEstimateRequest :=
  { PpmEstimateRequest.sample with originZip := 1099, weight := ⟨2099⟩ }

/-- Rows without influence on the sample move: another name for its origin, another postal area, the
way back, another service area, the rates of the next year at its origin, the other table of
brackets, a later bracket for the same shipment, and discounts of another route and another year. -/
def unrelatedRows : List TariffRow :=
  [.zip3 { RateSheet.sample.origin with basepointCity := "Chicopee" },
    .zip3 ⟨30, "Worcester", "MA", 3, "US30", 3⟩, .distance ⟨20, 10, 900⟩,
    .serviceArea { RateSheet.sample.originArea with serviceArea := 3 },
    .serviceArea { RateSheet.sample.originArea with
      linehaulFactor := ⟨99⟩
      effective := .nextSample },
    .baseLinehaul ⟨0, 4000, 0, 1000, ⟨7⟩⟩, .shorthaul ⟨0, 1000000, ⟨9⟩⟩,
    .discount { RateSheet.sample.discount with originRateArea := "US30" },
    .discount { RateSheet.sample.discount with effective := .nextSample }]

theorem estimatePpm_eq_of_agreesFor_sample :
    (Tariff.sample.estimatePpm .sample).isOk = true ∧
      Tariff.sample.estimatePpm .sample =
        (Tariff.sample.addAll unrelatedRows).estimatePpm .nearSample := by
  refine ⟨by decide +kernel, estimatePpm_eq_of_agreesFor _ _ _ _ ?_ ?_⟩
  · constructor <;> decide +kernel
  · have ho : Tariff.sample.zip3? 10 = some RateSheet.sample.origin := by decide +kernel
    have hd : Tariff.sample.zip3? 20 = some RateSheet.sample.destination := by decide +kernel
    constructor
    case mileage => decide +kernel
    case atOrigin =>
      refine ⟨by decide +kernel, ?_, ?_⟩
      all_goals
        intro row hrow
        obtain rfl := Option.some.inj (ho.symm.trans hrow)
        decide +kernel
    case atDestination =>
      refine ⟨by decide +kernel, ?_, ?_⟩
      all_goals
        intro row hrow
        obtain rfl := Option.some.inj (hd.symm.trans hrow)
        decide +kernel
    case transportation =>
      have hmiles : Tariff.sample.distance? 10 20 = some 300 := by decide +kernel
      intro miles hm
      obtain rfl := Option.some.inj (hmiles.symm.trans hm)
      decide +kernel
    case discounts =>
      intro originRow destinationRow horigin hdestination
      obtain rfl := Option.some.inj (ho.symm.trans horigin)
      obtain rfl := Option.some.inj (hd.symm.trans hdestination)
      decide +kernel

end MoveRating
