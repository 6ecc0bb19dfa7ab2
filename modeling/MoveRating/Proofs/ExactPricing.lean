import MoveRating.Pricing.Estimate
import MoveRating.Proofs.Discount
import MoveRating.Proofs.Lookup
import MoveRating.Proofs.Reckoning

/-!
# Prices in exact integers

Each price as a `Reckoning`: the same look-ups, with all sums and products in exact integers.

* `Tariff.reckonTransportation`, `Tariff.reckonAreaCharge`, `Tariff.reckonLinehaul` and
  `Tariff.reckonStorage` are the charges, `Tariff.reckonPpm` and `Tariff.reckonSit` the estimates.
* `inWords_estimatePpm` and `inWords_estimateSit`: the estimates of a tariff are these reckonings in
  words.
-/

namespace MoveRating

open Reckoning

/-- The figures of an itemized linehaul charge. -/
structure LinehaulFigures where
  /-- The mileage. -/
  mileage : UInt32
  /-- The hundredweights charged for. -/
  cwt : Int
  /-- The kind of haul. -/
  haul : Haul
  /-- The transportation charge. -/
  transportation : Int
  /-- The linehaul factor at the origin. -/
  originFactor : Int
  /-- The linehaul factor at the destination. -/
  destinationFactor : Int
  /-- The sum of the three charges. -/
  total : Int
deriving DecidableEq, Repr

/-- The figures of an itemized estimate of a move. -/
structure PpmFigures where
  /-- The linehaul charge. -/
  linehaul : LinehaulFigures
  /-- The service charge at the origin. -/
  originServiceCharge : Int
  /-- The service charge at the destination. -/
  destinationServiceCharge : Int
  /-- The charge for storage at the destination. -/
  sit : Int
  /-- The discounts of the route. -/
  discount : RouteDiscount
  /-- The linehaul charge after its discount. -/
  linehaulNet : Int
  /-- The service charges after the linehaul discount. -/
  serviceChargesNet : Int
  /-- The storage charge after its discount. -/
  sitNet : Int
  /-- The sum of the charges. -/
  grossTotal : Int
  /-- The sum of the charges after discounts. -/
  netTotal : Int
deriving DecidableEq, Repr

/-- The figures of an estimate of storage. -/
structure SitFigures where
  /-- The storage charge. -/
  gross : Int
  /-- The discount on it. -/
  discountRate : DiscountRate
  /-- The charge after the discount. -/
  estimate : Int
deriving DecidableEq, Repr

/-- The figures that a linehaul charge denotes. -/
def LinehaulCost.figures (l : LinehaulCost) : LinehaulFigures :=
  ⟨l.mileage, l.cwt.toInt, l.haul, l.transportation.toInt, l.originFactor.toInt,
    l.destinationFactor.toInt, l.total.toInt⟩

/-- The figures that an estimate of a move denotes. -/
def PpmEstimate.figures (e : PpmEstimate) : PpmFigures :=
  ⟨e.linehaul.figures, e.originServiceCharge.toInt, e.destinationServiceCharge.toInt, e.sit.toInt,
    e.discount, e.linehaulNet.toInt, e.serviceChargesNet.toInt, e.sitNet.toInt,
    e.grossTotal.toInt, e.netTotal.toInt⟩

/-- The figures that an estimate of storage denotes. -/
def SitEstimate.figures (e : SitEstimate) : SitFigures :=
  ⟨e.gross.toInt, e.discountRate, e.estimate.toInt⟩

namespace Tariff

variable (t : Tariff)

/-! ### Charges -/

/-- The longhaul charge. -/
def reckonLonghaul (miles : UInt32) (cwt : Cwt) : Reckoning Int := do
  let key := Numeral.text miles.toNat ++ " miles, " ++ cwt.text
  let rate ← lookup (require .baseLinehaul key (t.longhaulRate? miles cwt.toInt))
  figure .product (rate.toInt * cwt.toInt)

/-- The shorthaul charge. -/
def reckonShorthaul (miles : UInt32) (cwt : Cwt) : Reckoning Int := do
  let cwtMiles ← figure .product (miles.toNat * cwt.toInt)
  let key := Numeral.signedText cwtMiles ++ " cwt-miles"
  let rate ← lookup (require .shorthaul key (t.shorthaulRate? cwtMiles))
  figure .product (rate.toInt * cwt.toInt)

/-- The transportation charge, by the table that the mileage selects. -/
def reckonTransportation (miles : UInt32) (cwt : Cwt) : Reckoning Int :=
  if miles.toNat < 800 then t.reckonShorthaul miles cwt else t.reckonLonghaul miles cwt

/-- A charge at a rate of the service area of one end. -/
def reckonAreaCharge (rate : ServiceAreaRate → Cents) (cwt : Cwt) (zip3 : UInt32) (date : Date) :
    Reckoning Int := do
  let area ← lookup (t.serviceAreaFor zip3 date)
  figure .product ((rate area).toInt * cwt.toInt)

/-- The itemized linehaul charge. -/
def reckonLinehaul (weight : Pounds) (origin destination : UInt32) (date : Date) :
    Reckoning LinehaulFigures := do
  lookup (checkWeight weight)
  let mileage ← lookup (t.milesBetween origin destination)
  let cwt := weight.toCwt
  let transportation ← t.reckonTransportation mileage cwt
  let originFactor ← t.reckonAreaCharge (·.linehaulFactor) cwt origin date
  let destinationFactor ← t.reckonAreaCharge (·.linehaulFactor) cwt destination date
  let factored ← figure .sum (transportation + originFactor)
  let total ← figure .sum (factored + destinationFactor)
  return ⟨mileage, cwt.toInt, Haul.ofMiles mileage, transportation, originFactor,
    destinationFactor, total⟩

/-- The storage charge by the rates of one service area, for at least one day. -/
def reckonStorageByArea (area : ServiceAreaRate) (cwt : Cwt) (days : UInt32) (stored : StorageEnd) :
    Reckoning Int := do
  let firstDay ← figure .product (area.sitFirstDay.toInt * cwt.toInt)
  let cwtDays ← figure .product ((days.toNat - 1 : Nat) * cwt.toInt)
  let additional ← figure .product (area.sitAdditionalDay.toInt * cwtDays)
  let total ← figure .sum (firstDay + additional)
  match stored with
  | .destination => return total
  | .origin =>
    let pickup ← figure .product (area.sitPickupDelivery.toInt * cwt.toInt)
    figure .sum (total + pickup)

/-- The storage charge. -/
def reckonStorage (cwt : Cwt) (days : UInt32) (zip3 : UInt32) (date : Date) (stored : StorageEnd) :
    Reckoning Int :=
  if cwt.toInt < 0 then lookup (.error (.invalidInput "cwt" (cwt.text ++ " is negative")))
  else if days = 0 then return 0
  else do
    let area ← lookup (t.serviceAreaFor zip3 date)
    reckonStorageByArea area cwt days stored

/-! ### Estimates -/

/-- The itemized estimate of a move. -/
def reckonPpm (q : PpmEstimateRequest) : Reckoning PpmFigures := do
  let origin := zip3Of q.originZip
  let destination := zip3Of q.destinationZip
  let date := q.plannedMoveDate
  let cwt := q.weight.toCwt
  let linehaul ← t.reckonLinehaul q.weight origin destination date
  let originServiceCharge ← t.reckonAreaCharge (·.serviceCharge) cwt origin date
  let destinationServiceCharge ← t.reckonAreaCharge (·.serviceCharge) cwt destination date
  let sit ← t.reckonStorage cwt q.daysInStorage destination date .destination
  let discount ← lookup (t.resolveDiscount q.originZip q.destinationZip date)
  let serviceCharges ← figure .sum (originServiceCharge + destinationServiceCharge)
  let linehaulNet := discount.linehaul.netOf linehaul.total
  let serviceChargesNet := discount.linehaul.netOf serviceCharges
  let sitNet := discount.sit.netOf sit
  let grossTotal ← total linehaul.total [originServiceCharge, destinationServiceCharge, sit]
  let netTotal ← total linehaulNet [serviceChargesNet, sitNet]
  return { linehaul, originServiceCharge, destinationServiceCharge, sit, discount, linehaulNet,
           serviceChargesNet, sitNet, grossTotal, netTotal }

/-- The estimate of storage at the destination of a move. -/
def reckonSit (origin destination : UInt32) (weight : Pounds) (date : Date) (days : UInt32) :
    Reckoning SitFigures := do
  lookup (checkWeight weight)
  let discount ← lookup (t.resolveDiscount origin destination date)
  let gross ← t.reckonStorage weight.toCwt days (zip3Of destination) date .destination
  return { gross, discountRate := discount.sit, estimate := discount.sit.netOf gross }

end Tariff

/-! ### The charges of a tariff in words -/

variable {t : Tariff}

theorem inWords_baseLinehaulCharge (miles : UInt32) (cwt : Cwt) :
    InWords Cents.toInt (t.baseLinehaulCharge miles cwt) (t.reckonLonghaul miles cwt) := by
  have hcovers : (fun r : BaseLinehaulRate => r.covers miles cwt.val) =
      fun r => r.holds miles cwt.toInt := funext fun r => r.covers_eq_holds miles cwt.val
  unfold Tariff.baseLinehaulCharge Tariff.reckonLonghaul Tariff.longhaulRate?
  rw [hcovers]
  cases t.baseLinehaul.find? fun r => r.holds miles cwt.toInt with
  | none => rfl
  | some bracket => exact inWords_perCwt bracket.rate cwt

theorem inWords_shorthaulCharge (miles : UInt32) (cwt : Cwt) :
    InWords Cents.toInt (t.shorthaulCharge miles cwt) (t.reckonShorthaul miles cwt) := by
  -- the mileage is a word, so only its product with the weight can overflow
  have hmiles : (Int64.ofNat miles.toNat).toInt = miles.toNat := toInt_ofNat_of_lt miles.toNat_lt
  have hproduct := inWords_checked .product ((Int64.ofNat miles.toNat).toInt * cwt.val.toInt)
  rw [hmiles] at hproduct
  unfold Tariff.shorthaulCharge checkedMul
  rw [hmiles]
  refine hproduct.bind fun cwtMiles _ => ?_
  have hcovers : (fun r : ShorthaulRate => r.covers cwtMiles) = fun r => r.holds cwtMiles.toInt :=
    funext fun r => r.covers_eq_holds cwtMiles
  unfold Tariff.shorthaulRate?
  rw [hcovers]
  cases t.shorthaul.find? fun r => r.holds cwtMiles.toInt with
  | none => rfl
  | some bracket => exact inWords_perCwt bracket.rate cwt

theorem ofMiles_of_lt {miles : UInt32} (h : miles.toNat < 800) :
    Haul.ofMiles miles = .shorthaul := if_pos h

theorem ofMiles_of_not_lt {miles : UInt32} (h : ¬miles.toNat < 800) :
    Haul.ofMiles miles = .longhaul := if_neg h

theorem inWords_transportation (miles : UInt32) (cwt : Cwt) :
    InWords (fun p => p.2.toInt) (t.transportation miles cwt)
      (t.reckonTransportation miles cwt) := by
  unfold Tariff.transportation Tariff.reckonTransportation
  by_cases h : miles.toNat < 800
  · rw [ofMiles_of_lt h, if_pos h]
    exact (inWords_shorthaulCharge miles cwt).bind_pure fun _ => rfl
  · rw [ofMiles_of_not_lt h, if_neg h]
    exact (inWords_baseLinehaulCharge miles cwt).bind_pure fun _ => rfl

theorem haul_of_transportation {miles : UInt32} {cwt : Cwt} {p : Haul × Cents}
    (h : t.transportation miles cwt = .ok p) : p.1 = Haul.ofMiles miles := by
  unfold Tariff.transportation at h
  split at h
  · next hhaul =>
    obtain ⟨c, -, hc⟩ := bind_eq_ok_iff.1 h
    obtain rfl := pure_eq_ok_iff.1 hc
    exact hhaul.symm
  · next hhaul =>
    obtain ⟨c, -, hc⟩ := bind_eq_ok_iff.1 h
    obtain rfl := pure_eq_ok_iff.1 hc
    exact hhaul.symm

theorem inWords_areaCharge (rate : ServiceAreaRate → Cents) (cwt : Cwt) (zip3 : UInt32)
    (date : Date) :
    InWords Cents.toInt
      (do let area ← t.serviceAreaFor zip3 date
          (rate area).perCwt cwt : Priced Cents)
      (t.reckonAreaCharge rate cwt zip3 date) :=
  (inWords_lookup _).bind fun area _ => inWords_perCwt (rate area) cwt

theorem inWords_linehaulFactor (cwt : Cwt) (zip3 : UInt32) (date : Date) :
    InWords Cents.toInt (t.linehaulFactor cwt zip3 date)
      (t.reckonAreaCharge (·.linehaulFactor) cwt zip3 date) := inWords_areaCharge _ cwt zip3 date

theorem inWords_serviceCharge (cwt : Cwt) (zip3 : UInt32) (date : Date) :
    InWords Cents.toInt (t.serviceCharge cwt zip3 date)
      (t.reckonAreaCharge (·.serviceCharge) cwt zip3 date) := inWords_areaCharge _ cwt zip3 date

theorem inWords_linehaulCost (weight : Pounds) (origin destination : UInt32) (date : Date) :
    InWords LinehaulCost.figures (t.linehaulCost weight origin destination date)
      (t.reckonLinehaul weight origin destination date) := by
  unfold Tariff.linehaulCost Tariff.reckonLinehaul
  refine (inWords_lookup _).bind fun _ _ => (inWords_lookup _).bind fun mileage _ => ?_
  refine (inWords_transportation mileage _).bind fun ⟨haul, transportation⟩ hhaul => ?_
  obtain rfl := haul_of_transportation hhaul
  refine (inWords_linehaulFactor _ _ _).bind fun originFactor _ => ?_
  refine (inWords_linehaulFactor _ _ _).bind fun destinationFactor _ => ?_
  refine (inWords_add _ _).bind fun factored _ => (inWords_add _ _).bind fun total _ => ?_
  exact InWords.pure rfl

/-- A linehaul charge is for the whole hundredweights in the weight. -/
theorem cwt_of_linehaulCost {weight : Pounds} {origin destination : UInt32} {date : Date}
    {l : LinehaulCost} (h : t.linehaulCost weight origin destination date = .ok l) :
    l.cwt = weight.toCwt := by
  unfold Tariff.linehaulCost at h
  simp only [bind_eq_ok_iff, pure_eq_ok_iff] at h
  obtain ⟨-, -, mileage, -, ⟨haul, transportation⟩, -, h⟩ := h
  obtain ⟨originFactor, -, destinationFactor, -, factored, -, total, -, rfl⟩ := h
  rfl

theorem inWords_storageByArea (area : ServiceAreaRate) (cwt : Cwt) {days : UInt32}
    (stored : StorageEnd) :
    InWords Cents.toInt (liftM (Tariff.storageByArea area cwt days stored) : Priced Cents)
      (Tariff.reckonStorageByArea area cwt days stored) := by
  -- the same for the days after the first
  have hdays : (Int64.ofNat (days.toNat - 1)).toInt = (days.toNat - 1 : Nat) :=
    toInt_ofNat_of_lt (Nat.lt_of_le_of_lt (Nat.sub_le _ _) days.toNat_lt)
  have hproduct := inWords_checked .product ((Int64.ofNat (days.toNat - 1)).toInt * cwt.val.toInt)
  unfold Tariff.storageByArea Tariff.reckonStorageByArea checkedMul
  rw [← hdays]
  refine (inWords_perCwt area.sitFirstDay cwt).lift_bind fun firstDay => ?_
  refine hproduct.lift_bind fun cwtDays => ?_
  refine (inWords_times area.sitAdditionalDay cwtDays).lift_bind fun additional => ?_
  refine (inWords_add firstDay additional).lift_bind fun total => ?_
  cases stored with
  | origin =>
    refine (inWords_perCwt area.sitPickupDelivery cwt).lift_bind fun pickup => ?_
    exact inWords_add total pickup
  | destination => exact InWords.pure rfl

theorem inWords_storageCharge (cwt : Cwt) (days zip3 : UInt32) (date : Date)
    (stored : StorageEnd) :
    InWords Cents.toInt (t.storageCharge cwt days zip3 date stored)
      (t.reckonStorage cwt days zip3 date stored) := by
  unfold Tariff.storageCharge Tariff.reckonStorage
  by_cases hcwt : cwt.val < 0
  · rw [if_pos hcwt, if_pos (show cwt.toInt < 0 from Int64.lt_iff_toInt_lt.1 hcwt)]
    rfl
  · rw [if_neg hcwt, if_neg (show ¬cwt.toInt < 0 from fun h => hcwt (Int64.lt_iff_toInt_lt.2 h))]
    by_cases hdays : days = 0
    · rw [if_pos hdays, if_pos hdays]
      rfl
    · rw [if_neg hdays, if_neg hdays]
      exact (inWords_lookup _).bind fun area _ => inWords_storageByArea area cwt stored

/-! ### The estimates of a tariff in words -/

/-- A discount of a route always leaves an amount. -/
theorem lift_apply_eq_ok {rate : DiscountRate} (h : rate.fraction.isUnit = true) (gross : Cents) :
    ∃ net, (liftM (rate.apply gross) : Priced Cents) = .ok net ∧
      net.toInt = rate.netOf gross.toInt := by
  obtain ⟨net, hnet, hval⟩ := DiscountRate.apply_eq_ok h gross
  refine ⟨net, ?_, hval⟩
  rw [hnet]
  rfl

/-- The estimate of a move is its reckoning in words. -/
theorem inWords_estimatePpm (q : PpmEstimateRequest) :
    InWords PpmEstimate.figures (t.estimatePpm q) (t.reckonPpm q) := by
  unfold Tariff.estimatePpm Tariff.reckonPpm
  refine (inWords_linehaulCost _ _ _ _).bind fun linehaul hlinehaul => ?_
  rw [cwt_of_linehaulCost hlinehaul]
  refine (inWords_serviceCharge _ _ _).bind fun originServiceCharge _ => ?_
  refine (inWords_serviceCharge _ _ _).bind fun destinationServiceCharge _ => ?_
  refine (inWords_storageCharge _ _ _ _ _).bind fun sit _ => ?_
  refine (inWords_lookup _).bind fun discount hdiscount => ?_
  -- the discounts are in bounds, so that they leave words
  obtain ⟨hunit, hunitSit⟩ : discount.linehaul.fraction.isUnit = true ∧
      discount.sit.fraction.isUnit = true :=
    Tariff.isUnit_of_resolveDiscount (mapError_eq_ok_iff.1 hdiscount)
  refine InWords.bind_value (lift_apply_eq_ok hunit linehaul.total) fun linehaulNet hl => ?_
  refine (inWords_add _ _).bind fun serviceCharges _ => ?_
  refine InWords.bind_value (lift_apply_eq_ok hunit serviceCharges) fun serviceChargesNet hs => ?_
  refine InWords.bind_value (lift_apply_eq_ok hunitSit sit) fun sitNet ht => ?_
  refine (inWords_addAll _ _).bind fun grossTotal _ => ?_
  -- the net total is a sum of the amounts that are left
  change InWords _ _ (total (discount.linehaul.netOf linehaul.total.toInt)
    [discount.linehaul.netOf serviceCharges.toInt, discount.sit.netOf sit.toInt] >>= _)
  rw [← hl, ← hs, ← ht]
  refine (inWords_addAll _ _).bind fun netTotal _ => InWords.pure ?_
  simp only [PpmEstimate.figures, hl, hs, ht]
  rfl

/-- The estimate of storage is its reckoning in words. -/
theorem inWords_estimateSit (origin destination : UInt32) (weight : Pounds) (date : Date)
    (days : UInt32) :
    InWords SitEstimate.figures (t.estimateSit origin destination weight date days)
      (t.reckonSit origin destination weight date days) := by
  unfold Tariff.estimateSit Tariff.reckonSit
  refine (inWords_lookup _).bind fun _ _ => (inWords_lookup _).bind fun discount hdiscount => ?_
  have hunit : discount.sit.fraction.isUnit = true :=
    (Tariff.isUnit_of_resolveDiscount (mapError_eq_ok_iff.1 hdiscount)).2
  refine (inWords_storageCharge _ _ _ _ _).bind fun gross _ => ?_
  refine InWords.bind_value (lift_apply_eq_ok hunit gross) fun estimate hestimate => ?_
  exact InWords.pure (congrArg (SitFigures.mk gross.toInt discount.sit) hestimate)

end MoveRating
