import MoveRating.Proofs.Deviation
import MoveRating.Proofs.Rating

/-!
# Totals after discounts

The charges of an estimate are discounted and rounded one by one and then added up.

* `Tariff.PpmSteps` and `Tariff.SitSteps` list the steps that lead to an estimate, and
  `steps_of_estimatePpm` and `steps_of_estimateSit` say that every estimate is made by them.
* `PpmEstimate.NetBounds` and `SitEstimate.NetBounds` say how the amounts after discounts lie to
  those before and to the exact figures.
* `netBounds_of_estimate` : all estimates keep these bounds, at the discounts of their route.
-/

namespace MoveRating

variable {t : Tariff} {q : PpmEstimateRequest}

/-! ### Sums of amounts -/

namespace Cents

variable {a b c d : Cents}

theorem add_eq_ok_iff : a.add b = .ok c ↔ c.toInt = a.toInt + b.toInt := by
  obtain ⟨c⟩ := c
  unfold add checkedAdd
  simp only [map_eq_ok_iff, checked_eq_ok_iff, Cents.mk.injEq, exists_eq_right]
  exact Iff.rfl

theorem toInt_of_addAll {amounts : List Cents} (h : a.addAll amounts = .ok d) :
    d.toInt = a.toInt + (amounts.map toInt).sum := by
  induction amounts generalizing a with
  | nil =>
    cases h
    simp
  | cons b amounts ih =>
    obtain ⟨c, hadd, hrest⟩ := bind_eq_ok_iff.1 h
    have hc := add_eq_ok_iff.1 hadd
    have hd := ih hrest
    rw [List.map_cons, List.sum_cons]
    omega

end Cents

/-! ### The steps of an estimate -/

namespace Tariff

/-- The steps that lead to the estimate of a move. -/
structure PpmSteps (t : Tariff) (q : PpmEstimateRequest) (e : PpmEstimate) : Prop where
  linehaul : t.linehaulCost q.weight (zip3Of q.originZip) (zip3Of q.destinationZip)
    q.plannedMoveDate = .ok e.linehaul
  originServiceCharge : t.serviceCharge e.linehaul.cwt (zip3Of q.originZip) q.plannedMoveDate =
    .ok e.originServiceCharge
  destinationServiceCharge : t.serviceCharge e.linehaul.cwt (zip3Of q.destinationZip)
    q.plannedMoveDate = .ok e.destinationServiceCharge
  sit : t.storageCharge e.linehaul.cwt q.daysInStorage (zip3Of q.destinationZip)
    q.plannedMoveDate .destination = .ok e.sit
  discount : t.resolveDiscount q.originZip q.destinationZip q.plannedMoveDate = .ok e.discount
  linehaulNet : e.discount.linehaul.apply e.linehaul.total = .ok e.linehaulNet
  serviceChargesNet : ∃ charges,
    e.originServiceCharge.add e.destinationServiceCharge = .ok charges ∧
      e.discount.linehaul.apply charges = .ok e.serviceChargesNet
  sitNet : e.discount.sit.apply e.sit = .ok e.sitNet
  grossTotal : e.linehaul.total.addAll
    [e.originServiceCharge, e.destinationServiceCharge, e.sit] = .ok e.grossTotal
  netTotal : e.linehaulNet.addAll [e.serviceChargesNet, e.sitNet] = .ok e.netTotal

/-- The steps that lead to the estimate of storage, at the discounts `route`. -/
structure SitSteps (t : Tariff) (origin destination : UInt32) (weight : Pounds) (date : Date)
    (days : UInt32) (route : RouteDiscount) (e : SitEstimate) : Prop where
  checked : checkWeight weight = .ok ()
  discount : t.resolveDiscount origin destination date = .ok route
  discountRate : e.discountRate = route.sit
  gross : t.storageCharge weight.toCwt days (zip3Of destination) date .destination = .ok e.gross
  estimate : e.discountRate.apply e.gross = .ok e.estimate

end Tariff

theorem steps_of_estimatePpm {e : PpmEstimate} (h : t.estimatePpm q = .ok e) : t.PpmSteps q e := by
  unfold Tariff.estimatePpm at h
  simp only [bind_eq_ok_iff, lift_overflow, lift_refusal, mapError_eq_ok_iff, pure_eq_ok_iff] at h
  obtain ⟨linehaul, hlinehaul, originCharge, horigin, destinationCharge, hdestination, sit, hsit,
    discount, hdiscount, linehaulNet, hlinehaulNet, charges, hcharges, chargesNet, hchargesNet,
    sitNet, hsitNet, grossTotal, hgross, netTotal, hnet, rfl⟩ := h
  exact ⟨hlinehaul, horigin, hdestination, hsit, hdiscount, hlinehaulNet,
    ⟨charges, hcharges, hchargesNet⟩, hsitNet, hgross, hnet⟩

theorem steps_of_estimateSit {origin destination : UInt32} {weight : Pounds} {date : Date}
    {days : UInt32} {e : SitEstimate}
    (h : t.estimateSit origin destination weight date days = .ok e) :
    ∃ route, t.SitSteps origin destination weight date days route e := by
  unfold Tariff.estimateSit at h
  simp only [bind_eq_ok_iff, lift_overflow, lift_refusal, mapError_eq_ok_iff, pure_eq_ok_iff] at h
  obtain ⟨⟨⟩, hweight, discount, hdiscount, gross, hgross, estimate, hestimate, rfl⟩ := h
  exact ⟨discount, hweight, hdiscount, rfl, hgross, hestimate⟩

/-! ### Bounds of single amounts -/

/-- The amount lies between nothing and the charge, whatever the sign of the charge. -/
def PartOf (charge amount : Int) : Prop := min 0 charge ≤ amount ∧ amount ≤ max 0 charge

theorem PartOf.of_nonneg {charge amount : Int} (h : PartOf charge amount) (hcharge : 0 ≤ charge) :
    0 ≤ amount ∧ amount ≤ charge := by
  obtain ⟨hlower, hupper⟩ := h
  rw [min_eq_left hcharge] at hlower
  rw [max_eq_right hcharge] at hupper
  exact ⟨hlower, hupper⟩

namespace DiscountRate

variable {rate : DiscountRate}

theorem partOf_netOf (h : rate.fraction.isUnit = true) (gross : Int) :
    PartOf gross (rate.netOf gross) := by
  have habs := natAbs_netOf_le h gross
  rcases Int.le_total 0 gross with hgross | hgross
  · have hnet := netOf_nonneg h hgross
    exact ⟨by omega, by omega⟩
  · have hnet := netOf_nonpos h hgross
    exact ⟨by omega, by omega⟩

/-- How the amount that a discount leaves lies to the charge. -/
structure Leaves (rate : DiscountRate) (gross net : Int) : Prop where
  partOf : PartOf gross net
  drift : |(net : Rat) - gross * (1 - rate.fraction.toRat)| ≤ 1 / 2 + 1 / (2 * 10 ^ 9)
  undiscounted : rate.fraction.toRat = 0 → net = gross
  free : rate.fraction.toRat = 1 → net = 0

/-- What a rate between zero and one leaves of an amount. -/
theorem leaves_of_apply {gross net : Cents} (h : rate.fraction.isUnit = true)
    (hnet : rate.apply gross = .ok net) : rate.Leaves gross.toInt net.toInt := by
  obtain ⟨net', hnet', heq⟩ := apply_eq_ok h gross
  rw [hnet] at hnet'
  cases hnet'
  rw [heq]
  exact ⟨partOf_netOf h _, abs_netOf_sub_le h gross.fits_toInt, netOf_of_eq_zero h gross.fits_toInt,
    netOf_of_eq_one h gross.fits_toInt⟩

end DiscountRate

/-! ### Bounds of totals -/

/-- The net total of a move in exact rational numbers. -/
def PpmEstimate.exactNet (e : PpmEstimate) : Rat :=
  let kept := 1 - e.discount.linehaul.fraction.toRat
  let sitKept := 1 - e.discount.sit.fraction.toRat
  e.linehaul.total.toInt * kept +
    (e.originServiceCharge.toInt + e.destinationServiceCharge.toInt) * kept + e.sit.toInt * sitKept

/-- How the amounts after discounts lie in the estimate of a move. -/
structure PpmEstimate.NetBounds (e : PpmEstimate) : Prop where
  linehaul : PartOf e.linehaul.total.toInt e.linehaulNet.toInt
  serviceCharges : PartOf (e.originServiceCharge.toInt + e.destinationServiceCharge.toInt)
    e.serviceChargesNet.toInt
  sit : PartOf e.sit.toInt e.sitNet.toInt
  /-- The net total is less than two cents off. -/
  drift : |(e.netTotal.toInt : Rat) - e.exactNet| < 2
  /-- Discounts on charges that are not negative neither add to them nor go below nothing. -/
  nonneg : 0 ≤ e.linehaul.total.toInt →
    0 ≤ e.originServiceCharge.toInt + e.destinationServiceCharge.toInt → 0 ≤ e.sit.toInt →
    0 ≤ e.netTotal.toInt ∧ e.netTotal.toInt ≤ e.grossTotal.toInt
  /-- Rates of zero take nothing off. -/
  undiscounted : e.discount.linehaul.fraction.toRat = 0 → e.discount.sit.fraction.toRat = 0 →
    e.netTotal = e.grossTotal
  /-- Rates of one take all off. -/
  free : e.discount.linehaul.fraction.toRat = 1 → e.discount.sit.fraction.toRat = 1 →
    e.netTotal = .zero

/-- How the amount after the discount lies in the estimate of storage. -/
structure SitEstimate.NetBounds (e : SitEstimate) : Prop where
  estimate : PartOf e.gross.toInt e.estimate.toInt
  /-- The single amount is less than one cent off. -/
  drift : |(e.estimate.toInt : Rat) - e.gross.toInt * (1 - e.discountRate.fraction.toRat)| < 1
  nonneg : 0 ≤ e.gross.toInt → 0 ≤ e.estimate.toInt ∧ e.estimate.toInt ≤ e.gross.toInt
  undiscounted : e.discountRate.fraction.toRat = 0 → e.estimate = e.gross
  free : e.discountRate.fraction.toRat = 1 → e.estimate = .zero

/-- The estimate of a move by its steps keeps the bounds. -/
theorem Tariff.PpmSteps.netBounds {e : PpmEstimate} (h : t.PpmSteps q e) : e.NetBounds := by
  obtain ⟨hunit, hunitSit⟩ := isUnit_of_resolveDiscount h.discount
  obtain ⟨charges, hcharges, hchargesNet⟩ := h.serviceChargesNet
  have hlinehaul := DiscountRate.leaves_of_apply hunit h.linehaulNet
  have hservice := DiscountRate.leaves_of_apply hunit hchargesNet
  have hsit := DiscountRate.leaves_of_apply hunitSit h.sitNet
  rw [Cents.add_eq_ok_iff.1 hcharges] at hservice
  have hgross := Cents.toInt_of_addAll h.grossTotal
  have hnet := Cents.toInt_of_addAll h.netTotal
  simp only [List.map_cons, List.map_nil, List.sum_cons, List.sum_nil, add_zero] at hgross hnet
  refine ⟨hlinehaul.partOf, hservice.partOf, hsit.partOf, ?_, ?_, ?_, ?_⟩
  · -- each of the three amounts is off by little more than half a cent
    have d₁ := abs_le.1 hlinehaul.drift
    have d₂ := abs_le.1 hservice.drift
    have d₃ := abs_le.1 hsit.drift
    rw [hnet]
    unfold PpmEstimate.exactNet
    push_cast at d₂ ⊢
    rw [abs_lt]
    constructor <;> linarith
  · intro h₁ h₂ h₃
    have n₁ := hlinehaul.partOf.of_nonneg h₁
    have n₂ := hservice.partOf.of_nonneg h₂
    have n₃ := hsit.partOf.of_nonneg h₃
    constructor <;> omega
  · intro hrate hrateSit
    have n₁ := hlinehaul.undiscounted hrate
    have n₂ := hservice.undiscounted hrate
    have n₃ := hsit.undiscounted hrateSit
    rw [← Cents.toInt_inj]
    omega
  · intro hrate hrateSit
    rw [← Cents.toInt_inj, hnet, hlinehaul.free hrate, hservice.free hrate, hsit.free hrateSit]
    rfl

/-- The estimate of storage by its steps keeps the bounds. -/
theorem Tariff.SitSteps.netBounds {origin destination : UInt32} {weight : Pounds} {date : Date}
    {days : UInt32} {route : RouteDiscount} {e : SitEstimate}
    (h : t.SitSteps origin destination weight date days route e) : e.NetBounds := by
  have hunit : e.discountRate.fraction.isUnit = true := by
    rw [h.discountRate]
    exact (isUnit_of_resolveDiscount h.discount).2
  have hestimate := DiscountRate.leaves_of_apply hunit h.estimate
  refine ⟨hestimate.partOf, ?_, hestimate.partOf.of_nonneg, ?_, ?_⟩
  · exact lt_of_le_of_lt hestimate.drift (by norm_num)
  · intro hrate
    exact Cents.toInt_inj.1 (hestimate.undiscounted hrate)
  · intro hrate
    exact Cents.toInt_inj.1 (hestimate.free hrate)

/-- Whatever the tariff, each amount after a discount lies between nothing and its charge, and the
totals stay within two cents of the exact figures at the discounts of the route. -/
theorem netBounds_of_estimate (t : Tariff) :
    (∀ q e, t.estimatePpm q = .ok e →
      t.resolveDiscount q.originZip q.destinationZip q.plannedMoveDate = .ok e.discount ∧
        e.NetBounds) ∧
      ∀ origin destination weight date days e,
        t.estimateSit origin destination weight date days = .ok e →
        (∃ route, t.resolveDiscount origin destination date = .ok route ∧
          e.discountRate = route.sit) ∧ e.NetBounds := by
  constructor
  · intro q e h
    have hsteps := steps_of_estimatePpm h
    exact ⟨hsteps.discount, hsteps.netBounds⟩
  · intro origin destination weight date days e h
    obtain ⟨route, hsteps⟩ := steps_of_estimateSit h
    exact ⟨⟨route, hsteps.discount, hsteps.discountRate⟩, hsteps.netBounds⟩

/-- A third, to all places that a decimal can have. -/
def Decimal.third : Decimal := ⟨false, 3333333333333333333333333333, 28, by decide, by decide⟩

/-- The tariff of the sheet `RateSheet.sample`, but with discounts of a third. -/
def Tariff.thirds : Tariff :=
  Tariff.empty.addAll
    [.zip3 RateSheet.sample.origin, .zip3 RateSheet.sample.destination, .distance ⟨10, 20, 300⟩,
      .serviceArea RateSheet.sample.originArea, .serviceArea RateSheet.sample.destinationArea,
      .shorthaul ⟨0, 100000, RateSheet.sample.transportation⟩,
      .discount { RateSheet.sample.discount with linehaulRate := .third, sitRate := .third }]

theorem netBounds_thirds :
    ∃ e e', Tariff.thirds.estimatePpm .sample = .ok e ∧
      Tariff.thirds.estimateSit 1001 2072 ⟨2000⟩ ⟨2018, 6, 1, by decide⟩ 3 = .ok e' ∧
      (e.grossTotal.toInt, e.netTotal.toInt) = (2220, 1480) ∧ e.NetBounds ∧ e'.NetBounds := by
  have hppm : ((Tariff.thirds.estimatePpm .sample).map fun e =>
      (e.grossTotal.toInt, e.netTotal.toInt)) = .ok (2220, 1480) := by decide +kernel
  have hsit : (Tariff.thirds.estimateSit 1001 2072 ⟨2000⟩ ⟨2018, 6, 1, by decide⟩ 3).isOk =
      true := by decide +kernel
  obtain ⟨e, he, htotals⟩ := map_eq_ok_iff.1 hppm
  cases he' : Tariff.thirds.estimateSit 1001 2072 ⟨2000⟩ ⟨2018, 6, 1, by decide⟩ 3 with
  | error why =>
    rw [he'] at hsit
    cases hsit
  | ok e' =>
    obtain ⟨hbounds, hboundsSit⟩ := netBounds_of_estimate .thirds
    exact ⟨e, e', he, rfl, htotals, (hbounds _ _ he).2, (hboundsSit _ _ _ _ _ _ he').2⟩

end MoveRating
