import MoveRating.Proofs.ExactPricing

/-!
# How a move is rated

* A `RateSheet` lists the rows by which a move is rated, and `Tariff.Rates` says that they are the
  ones which a tariff has for it.
* `RateSheet.figures` are the charges by these rows, in exact integers.
* `estimatePpm_eq_ok_iff`: unless a figure overflows, a move is estimated just if the tariff has a
  rate sheet for it, and then to the cent by that sheet.
-/

namespace MoveRating

open Reckoning

/-- The rows by which a move is rated. -/
structure RateSheet where
  /-- The miles from the origin to the destination. -/
  mileage : UInt32
  /-- The rate of transportation. -/
  transportation : Cents
  /-- The postal area of the origin. -/
  origin : Zip3
  /-- The postal area of the destination. -/
  destination : Zip3
  /-- The rates of the service area at the origin. -/
  originArea : ServiceAreaRate
  /-- The rates of the service area at the destination. -/
  destinationArea : ServiceAreaRate
  /-- The discounts of the route. -/
  discount : RouteDiscountRate
deriving DecidableEq, Repr

/-- The tariff has these rows for a move, each of them where it is looked for and no other row
beside it. -/
structure Tariff.Rates (t : Tariff) (q : PpmEstimateRequest) (s : RateSheet) : Prop where
  weight_nonneg : 0 ≤ q.weight.toInt
  distance : t.distance? (q.originZip / 100) (q.destinationZip / 100) = some s.mileage
  transportation : t.rateFor? s.mileage (q.weight.toInt / 100) = some s.transportation
  origin : t.zip3? (q.originZip / 100) = some s.origin
  destination : t.zip3? (q.destinationZip / 100) = some s.destination
  originArea : (t.serviceAreaRates s.origin.serviceArea).filter
    (·.effective.contains q.plannedMoveDate) = [s.originArea]
  destinationArea : (t.serviceAreaRates s.destination.serviceArea).filter
    (·.effective.contains q.plannedMoveDate) = [s.destinationArea]
  discount : (t.routeDiscounts s.origin.rateArea s.destination.region).filter
    (·.effective.contains q.plannedMoveDate) = [s.discount]
  linehaul_isUnit : s.discount.linehaulRate.isUnit = true
  sit_isUnit : s.discount.sitRate.isUnit = true

/-- The linehaul charge for a mileage and a number of hundredweights by a rate of transportation
and the rates of the service areas at both ends. -/
def linehaulFigures (miles : UInt32) (rate : Cents) (origin destination : ServiceAreaRate)
    (cwt : Int) : LinehaulFigures where
  mileage := miles
  cwt := cwt
  haul := if miles.toNat < 800 then .shorthaul else .longhaul
  transportation := rate.toInt * cwt
  originFactor := origin.linehaulFactor.toInt * cwt
  destinationFactor := destination.linehaulFactor.toInt * cwt
  total := rate.toInt * cwt + origin.linehaulFactor.toInt * cwt +
    destination.linehaulFactor.toInt * cwt

/-- The charge for storage at the destination by the rates of its service area. -/
def storageFigure (area : ServiceAreaRate) (cwt : Int) (days : Nat) : Int :=
  if days = 0 then 0
  else cwt * area.sitFirstDay.toInt + cwt * area.sitAdditionalDay.toInt * (days - 1)

/-- The charge for pickup and delivery, which only storage at the origin has. -/
def pickupFigure (area : ServiceAreaRate) (cwt : Int) : StorageEnd → Int
  | .origin => area.sitPickupDelivery.toInt * cwt
  | .destination => 0

namespace RateSheet

variable (s : RateSheet)

/-- The discounts of the route. -/
def discounts : RouteDiscount := ⟨⟨s.discount.linehaulRate⟩, ⟨s.discount.sitRate⟩⟩

/-- The charges for a move. -/
def figures (q : PpmEstimateRequest) : PpmFigures :=
  let cwt := q.weight.toInt / 100
  let linehaul := linehaulFigures s.mileage s.transportation s.originArea s.destinationArea cwt
  let originServiceCharge := s.originArea.serviceCharge.toInt * cwt
  let destinationServiceCharge := s.destinationArea.serviceCharge.toInt * cwt
  let sit := storageFigure s.destinationArea cwt q.daysInStorage.toNat
  let linehaulNet := s.discounts.linehaul.netOf linehaul.total
  let serviceChargesNet :=
    s.discounts.linehaul.netOf (originServiceCharge + destinationServiceCharge)
  let sitNet := s.discounts.sit.netOf sit
  { linehaul, originServiceCharge, destinationServiceCharge, sit, discount := s.discounts,
    linehaulNet, serviceChargesNet, sitNet,
    grossTotal := linehaul.total + originServiceCharge + destinationServiceCharge + sit
    netTotal := linehaulNet + serviceChargesNet + sitNet }

end RateSheet

namespace Tariff

variable {t : Tariff}

/-! ### Results of reckonings -/

theorem checkWeight_eq_ok_iff {weight : Pounds} {u : Unit} :
    checkWeight weight = .ok u ↔ 0 ≤ weight.toInt := by
  have hneg : weight.val < 0 ↔ weight.toInt < 0 := Int64.lt_iff_toInt_lt
  unfold checkWeight
  split
  · next h =>
    have := hneg.1 h
    simp only [reduceCtorEq, false_iff]
    omega
  · next h =>
    simp only [true_iff]
    exact Int.not_lt.1 fun hw => h (hneg.2 hw)

theorem reckonTransportation_eq_ok_iff {miles : UInt32} {cwt : Cwt} {n : Int} :
    (t.reckonTransportation miles cwt).result = .ok n ↔
      ∃ rate, t.rateFor? miles cwt.toInt = some rate ∧ n = rate.toInt * cwt.toInt := by
  unfold reckonTransportation rateFor?
  by_cases h : miles.toNat < 800
  · simp only [h, if_true, reckonShorthaul, result_bind, result_figure, result_lookup,
      bind_eq_ok_iff, require_eq_ok_iff]
    constructor
    · rintro ⟨cwtMiles, hmiles, rate, hrate, hn⟩
      cases hmiles
      cases hn
      exact ⟨rate, hrate, rfl⟩
    · rintro ⟨rate, hrate, rfl⟩
      exact ⟨_, rfl, rate, hrate, rfl⟩
  · simp only [h, if_false, reckonLonghaul, result_bind, result_figure, result_lookup,
      bind_eq_ok_iff, require_eq_ok_iff]
    constructor
    · rintro ⟨rate, hrate, hn⟩
      cases hn
      exact ⟨rate, hrate, rfl⟩
    · rintro ⟨rate, hrate, rfl⟩
      exact ⟨rate, hrate, rfl⟩

theorem reckonAreaCharge_eq_ok_iff {rate : ServiceAreaRate → Cents} {cwt : Cwt} {zip3 : UInt32}
    {date : Date} {n : Int} :
    (t.reckonAreaCharge rate cwt zip3 date).result = .ok n ↔
      ∃ area, t.serviceAreaFor zip3 date = .ok area ∧ n = (rate area).toInt * cwt.toInt := by
  simp only [reckonAreaCharge, result_bind, result_lookup, result_figure, bind_eq_ok_iff,
    Except.ok.injEq]
  constructor
  · rintro ⟨area, harea, rfl⟩
    exact ⟨area, harea, rfl⟩
  · rintro ⟨area, harea, rfl⟩
    exact ⟨area, harea, rfl⟩

theorem reckonLinehaul_eq_ok_iff {weight : Pounds} {origin destination : UInt32} {date : Date}
    {l : LinehaulFigures} :
    (t.reckonLinehaul weight origin destination date).result = .ok l ↔
      0 ≤ weight.toInt ∧ ∃ miles rate originArea destinationArea,
        t.distance? origin destination = some miles ∧
        t.rateFor? miles weight.toCwt.toInt = some rate ∧
        t.serviceAreaFor origin date = .ok originArea ∧
        t.serviceAreaFor destination date = .ok destinationArea ∧
        l = linehaulFigures miles rate originArea destinationArea weight.toCwt.toInt := by
  simp only [reckonLinehaul, result_bind, result_lookup, result_figure, result_pure,
    bind_eq_ok_iff, checkWeight_eq_ok_iff, milesBetween_eq_ok_iff, reckonTransportation_eq_ok_iff,
    reckonAreaCharge_eq_ok_iff, Except.ok.injEq]
  constructor
  · rintro ⟨-, hweight, miles, hmiles, -, ⟨rate, hrate, rfl⟩, -, ⟨originArea, ho, rfl⟩, -,
      ⟨destinationArea, hd, rfl⟩, -, rfl, -, rfl, rfl⟩
    exact ⟨hweight, miles, rate, originArea, destinationArea, hmiles, hrate, ho, hd, rfl⟩
  · rintro ⟨hweight, miles, rate, originArea, destinationArea, hmiles, hrate, ho, hd, rfl⟩
    exact ⟨(), hweight, miles, hmiles, _, ⟨rate, hrate, rfl⟩, _, ⟨originArea, ho, rfl⟩, _,
      ⟨destinationArea, hd, rfl⟩, _, rfl, _, rfl, rfl⟩

/-- The factors stand in another order in the computation. -/
theorem storageFigure_of_ne {area : ServiceAreaRate} {days : Nat} (hdays : days ≠ 0) (cwt : Int) :
    storageFigure area cwt days = area.sitFirstDay.toInt * cwt +
      area.sitAdditionalDay.toInt * ((days - 1 : Nat) * cwt) := by
  have hcast : ((days - 1 : Nat) : Int) = (days : Int) - 1 := by omega
  unfold storageFigure
  rw [if_neg hdays, hcast, Int.mul_comm area.sitFirstDay.toInt, Int.mul_comm ((days : Int) - 1),
    ← Int.mul_assoc, Int.mul_comm area.sitAdditionalDay.toInt]

theorem result_reckonStorageByArea {area : ServiceAreaRate} {cwt : Cwt} {days : UInt32}
    (hdays : days ≠ 0) (stored : StorageEnd) :
    (reckonStorageByArea area cwt days stored).result =
      .ok (storageFigure area cwt.toInt days.toNat + pickupFigure area cwt.toInt stored) := by
  have hpos : days.toNat ≠ 0 := fun h => hdays (UInt32.toNat_inj.1 h)
  rw [storageFigure_of_ne hpos]
  unfold reckonStorageByArea
  cases stored with
  | origin => simp only [result_bind, result_figure]; rfl
  | destination =>
    simp only [result_bind, result_figure, result_pure, pickupFigure, Int.add_zero]
    rfl

theorem reckonStorage_eq {cwt : Cwt} (hcwt : 0 ≤ cwt.toInt) {zip3 : UInt32} {date : Date}
    {area : ServiceAreaRate} (harea : t.serviceAreaFor zip3 date = .ok area) {days : UInt32}
    (hdays : days ≠ 0) {stored : StorageEnd} :
    t.reckonStorage cwt days zip3 date stored = reckonStorageByArea area cwt days stored := by
  unfold reckonStorage
  rw [if_neg (Int.not_lt.2 hcwt), if_neg hdays, harea]
  rfl

/-- Storage at the destination costs nothing for no days, and needs no rates then. -/
theorem result_reckonStorage {cwt : Cwt} (hcwt : 0 ≤ cwt.toInt) {zip3 : UInt32} {date : Date}
    {area : ServiceAreaRate} (harea : t.serviceAreaFor zip3 date = .ok area) (days : UInt32) :
    (t.reckonStorage cwt days zip3 date .destination).result =
      .ok (storageFigure area cwt.toInt days.toNat) := by
  by_cases hdays : days = 0
  · subst hdays
    unfold reckonStorage
    rw [if_neg (Int.not_lt.2 hcwt)]
    rfl
  · rw [reckonStorage_eq hcwt harea hdays]
    exact (result_reckonStorageByArea hdays .destination).trans
      (congrArg Except.ok (Int.add_zero _))

/-! ### Rate sheets -/

variable {q : PpmEstimateRequest} {s : RateSheet}

/-- A move is rated by one sheet only. -/
theorem Rates.unique {s' : RateSheet} (h : t.Rates q s) (h' : t.Rates q s') : s = s' := by
  obtain ⟨mileage, rate, origin, destination, originArea, destinationArea, discount⟩ := s
  obtain ⟨-, hmileage, hrate, horigin, hdestination, hoArea, hdArea, hdiscount, -, -⟩ := h
  obtain ⟨-, hmileage', hrate', horigin', hdestination', hoArea', hdArea', hdiscount', -, -⟩ := h'
  dsimp only at hmileage hrate horigin hdestination hoArea hdArea hdiscount
  -- the later rows are found under what the earlier ones say
  obtain rfl := Option.some.inj (hmileage.symm.trans hmileage')
  obtain rfl := Option.some.inj (hrate.symm.trans hrate')
  obtain rfl := Option.some.inj (horigin.symm.trans horigin')
  obtain rfl := Option.some.inj (hdestination.symm.trans hdestination')
  obtain rfl := List.singleton_inj.1 (hoArea.symm.trans hoArea')
  obtain rfl := List.singleton_inj.1 (hdArea.symm.trans hdArea')
  obtain rfl := List.singleton_inj.1 (hdiscount.symm.trans hdiscount')
  rfl

/-- Both service areas and the discounts are those of the rows on the sheet. -/
theorem Rates.resolved (h : t.Rates q s) :
    t.serviceAreaFor (zip3Of q.originZip) q.plannedMoveDate = .ok s.originArea ∧
      t.serviceAreaFor (zip3Of q.destinationZip) q.plannedMoveDate = .ok s.destinationArea ∧
      t.resolveDiscount q.originZip q.destinationZip q.plannedMoveDate = .ok s.discounts :=
  ⟨serviceAreaFor_eq_ok_iff.2 ⟨s.origin, h.origin, h.originArea⟩,
    serviceAreaFor_eq_ok_iff.2 ⟨s.destination, h.destination, h.destinationArea⟩,
    resolveDiscount_eq_ok_iff.2 ⟨s.origin, s.destination, s.discount, h.origin, h.destination,
      h.discount, rowDiscount_eq_ok_iff.2 ⟨h.linehaul_isUnit, h.sit_isUnit, rfl⟩⟩⟩

/-- Where everything is resolved, there is a rate sheet. -/
theorem exists_rates {miles : UInt32} {rate : Cents} {originArea destinationArea : ServiceAreaRate}
    {discount : RouteDiscount} (hweight : 0 ≤ q.weight.toInt)
    (hmiles : t.distance? (zip3Of q.originZip) (zip3Of q.destinationZip) = some miles)
    (hrate : t.rateFor? miles (q.weight.toInt / 100) = some rate)
    (ho : t.serviceAreaFor (zip3Of q.originZip) q.plannedMoveDate = .ok originArea)
    (hd : t.serviceAreaFor (zip3Of q.destinationZip) q.plannedMoveDate = .ok destinationArea)
    (hdiscount : t.resolveDiscount q.originZip q.destinationZip q.plannedMoveDate = .ok discount) :
    ∃ s : RateSheet, t.Rates q s ∧ s.mileage = miles ∧ s.transportation = rate ∧
      s.originArea = originArea ∧ s.destinationArea = destinationArea ∧ s.discounts = discount := by
  obtain ⟨origin, horigin, hoArea⟩ := serviceAreaFor_eq_ok_iff.1 ho
  obtain ⟨destination, hdestination, hdArea⟩ := serviceAreaFor_eq_ok_iff.1 hd
  obtain ⟨origin', destination', row, horigin', hdestination', hrow, hrowDiscount⟩ :=
    resolveDiscount_eq_ok_iff.1 hdiscount
  -- the discounts are looked up by the same two postal areas as the rates
  obtain rfl := Option.some.inj (horigin.symm.trans horigin')
  obtain rfl := Option.some.inj (hdestination.symm.trans hdestination')
  obtain ⟨hlinehaul, hsit, rfl⟩ := rowDiscount_eq_ok_iff.1 hrowDiscount
  exact ⟨⟨miles, rate, origin, destination, originArea, destinationArea, row⟩,
    ⟨hweight, hmiles, hrate, horigin, hdestination, hoArea, hdArea, hrow, hlinehaul, hsit⟩,
    rfl, rfl, rfl, rfl, rfl⟩

/-- A reckoning of a move has a result if there is a rate sheet, and then by this sheet. -/
theorem reckonPpm_eq_ok_iff {x : PpmFigures} :
    (t.reckonPpm q).result = .ok x ↔ ∃ s, t.Rates q s ∧ x = s.figures q := by
  simp only [reckonPpm, result_bind, result_lookup, result_figure, result_pure, result_total,
    bind_eq_ok_iff, reckonLinehaul_eq_ok_iff, reckonAreaCharge_eq_ok_iff, Except.ok.injEq]
  constructor
  · rintro ⟨-, ⟨hweight, miles, rate, originArea, destinationArea, hmiles, hrate, ho, hd, rfl⟩, -,
      ⟨originArea', ho', rfl⟩, -, ⟨destinationArea', hd', rfl⟩, sit, hsit, discount, hdiscount, -,
      rfl, -, rfl, -, rfl, rfl⟩
    -- the rows for the service charges are those for the linehaul factors
    obtain rfl := Except.ok.inj (ho.symm.trans ho')
    obtain rfl := Except.ok.inj (hd.symm.trans hd')
    rw [result_reckonStorage (Pounds.toCwt_nonneg hweight) hd] at hsit
    obtain rfl := Except.ok.inj hsit
    rw [Pounds.toInt_toCwt hweight] at hrate
    obtain ⟨s, hs, rfl, rfl, rfl, rfl, rfl⟩ := exists_rates hweight hmiles hrate ho hd hdiscount
    refine ⟨s, hs, ?_⟩
    rw [Pounds.toInt_toCwt hweight]
    rfl
  · rintro ⟨s, hs, rfl⟩
    obtain ⟨ho, hd, hdiscount⟩ := hs.resolved
    have hcwt := Pounds.toInt_toCwt hs.weight_nonneg
    have hrate : t.rateFor? s.mileage q.weight.toCwt.toInt = some s.transportation := by
      rw [hcwt]
      exact hs.transportation
    have hsit := result_reckonStorage (Pounds.toCwt_nonneg hs.weight_nonneg) hd q.daysInStorage
    refine ⟨_, ⟨hs.weight_nonneg, s.mileage, s.transportation, s.originArea, s.destinationArea,
        hs.distance, hrate, ho, hd, rfl⟩,
      _, ⟨s.originArea, ho, rfl⟩, _, ⟨s.destinationArea, hd, rfl⟩, _, hsit, _, hdiscount,
      _, rfl, _, rfl, _, rfl, ?_⟩
    rw [hcwt]
    rfl

end Tariff

/-- Two estimates of the same figures are the same. -/
theorem PpmEstimate.figures_inj {a b : PpmEstimate} (h : a.figures = b.figures) : a = b := by
  obtain ⟨⟨_, ⟨_⟩, _, ⟨_⟩, ⟨_⟩, ⟨_⟩, ⟨_⟩⟩, ⟨_⟩, ⟨_⟩, ⟨_⟩, _, ⟨_⟩, ⟨_⟩, ⟨_⟩, ⟨_⟩, ⟨_⟩⟩ := a
  obtain ⟨⟨_, ⟨_⟩, _, ⟨_⟩, ⟨_⟩, ⟨_⟩, ⟨_⟩⟩, ⟨_⟩, ⟨_⟩, ⟨_⟩, _, ⟨_⟩, ⟨_⟩, ⟨_⟩, ⟨_⟩, ⟨_⟩⟩ := b
  simp only [figures, LinehaulCost.figures, Cents.toInt, Cwt.toInt, PpmFigures.mk.injEq,
    LinehaulFigures.mk.injEq, Int64.toInt_inj] at h
  simp only [PpmEstimate.mk.injEq, LinehaulCost.mk.injEq, Cents.mk.injEq, Cwt.mk.injEq]
  exact h

/-- Unless a figure overflows, a move is estimated just if the tariff has a rate sheet for it, and
then every charge is the one by that sheet. -/
theorem estimatePpm_eq_ok_iff (t : Tariff) (q : PpmEstimateRequest)
    (h : ¬(t.estimatePpm q).Overflows) :
    ((∃ e, t.estimatePpm q = .ok e) ↔ ∃ s, t.Rates q s) ∧
      ∀ e, t.estimatePpm q = .ok e ↔ ∃ s, t.Rates q s ∧ e.figures = s.figures q := by
  have hmap := (inWords_estimatePpm (t := t) q).map_eq h
  -- an estimate is known by its figures
  have hfigures (x : PpmFigures) :
      (∃ e, t.estimatePpm q = .ok e ∧ e.figures = x) ↔ ∃ s, t.Rates q s ∧ x = s.figures q := by
    rw [← map_eq_ok_iff, hmap, mapError_eq_ok_iff, Tariff.reckonPpm_eq_ok_iff]
  constructor
  · constructor
    · rintro ⟨e, he⟩
      obtain ⟨s, hs, -⟩ := (hfigures e.figures).1 ⟨e, he, rfl⟩
      exact ⟨s, hs⟩
    · rintro ⟨s, hs⟩
      obtain ⟨e, he, -⟩ := (hfigures _).2 ⟨s, hs, rfl⟩
      exact ⟨e, he⟩
  · intro e
    rw [← hfigures]
    constructor
    · intro he
      exact ⟨e, he, rfl⟩
    · rintro ⟨e', he', heq⟩
      rw [he', PpmEstimate.figures_inj heq]

/-! ### A tariff of one route -/

/-- The year 2018. -/
def EffectiveRange.sample : EffectiveRange := ⟨⟨2018, 1, 1, by decide⟩, ⟨2019, 1, 1, by decide⟩⟩

/-- The year 2019. -/
def EffectiveRange.nextSample : EffectiveRange :=
  ⟨EffectiveRange.sample.upper, ⟨2020, 1, 1, by decide⟩⟩

/-- The rows of a shorthaul route from the postal area 10 to the postal area 20. -/
def RateSheet.sample : RateSheet where
  mileage := 300
  transportation := ⟨5⟩
  origin := ⟨10, "Springfield", "MA", 1, "US10", 1⟩
  destination := ⟨20, "Brockton", "MA", 2, "US20", 2⟩
  originArea := ⟨1, "Springfield", ⟨10⟩, ⟨20⟩, ⟨30⟩, ⟨4⟩, ⟨50⟩, .sample⟩
  destinationArea := ⟨2, "Brockton", ⟨11⟩, ⟨22⟩, ⟨33⟩, ⟨5⟩, ⟨55⟩, .sample⟩
  discount := ⟨"US10", 2, ⟨false, 5, 1, by decide, by decide⟩, ⟨false, 4, 1, by decide, by decide⟩,
    .sample⟩

/-- The tariff with these rows. -/
def Tariff.sample : Tariff :=
  Tariff.empty.addAll
    [.zip3 RateSheet.sample.origin, .zip3 RateSheet.sample.destination, .distance ⟨10, 20, 300⟩,
      .serviceArea RateSheet.sample.originArea, .serviceArea RateSheet.sample.destinationArea,
      .shorthaul ⟨0, 100000, RateSheet.sample.transportation⟩, .discount RateSheet.sample.discount]

/-- A move of 2000 pounds in the summer, with three days of storage. -/
def PpmEstimateRequest.sample : PpmEstimateRequest :=
  ⟨1001, 2072, ⟨2000⟩, ⟨2018, 6, 1, by decide⟩, 3⟩

theorem rates_sample : Tariff.sample.Rates .sample .sample where
  weight_nonneg := by decide +kernel
  distance := by decide +kernel
  transportation := by decide +kernel
  origin := by decide +kernel
  destination := by decide +kernel
  originArea := by decide +kernel
  destinationArea := by decide +kernel
  discount := by decide +kernel
  linehaul_isUnit := by decide +kernel
  sit_isUnit := by decide +kernel

theorem estimatePpm_sample :
    ¬(Tariff.sample.estimatePpm .sample).Overflows ∧
      ∃ e, Tariff.sample.estimatePpm .sample = .ok e ∧
        e.grossTotal.toInt = 2220 ∧ e.netTotal.toInt = 1196 := by
  have hfits : ¬(Tariff.sample.estimatePpm .sample).Overflows := by
    rw [(inWords_estimatePpm _).overflows_iff]
    decide +kernel
  obtain ⟨hexists, hfigures⟩ := estimatePpm_eq_ok_iff .sample .sample hfits
  obtain ⟨e, he⟩ := hexists.2 ⟨.sample, rates_sample⟩
  refine ⟨hfits, e, he, ?_⟩
  obtain ⟨s, hs, heq⟩ := (hfigures e).1 he
  obtain rfl := hs.unique rates_sample
  exact ⟨(congrArg PpmFigures.grossTotal heq).trans (by decide +kernel),
    (congrArg PpmFigures.netTotal heq).trans (by decide +kernel)⟩

end MoveRating
