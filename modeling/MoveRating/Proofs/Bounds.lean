import MoveRating.Proofs.Loading
import MoveRating.Proofs.Rating

/-!
# Estimates without overflow

How large the figures of an estimate can become, and a region of weights and days for which none
leaves a word.

* `Tariff.RatesWithin t M`: no rate of the tariff is larger than `M`.
* For `c` hundredweights, each charge is then at most `c * M`, and storage at most that for each day
  (`keeps_reckonLinehaul`, `keeps_reckonStorage`, `keeps_reckonPpm`).
* `estimates_of_ratesWithin`: where these bounds fit a word, both estimates are made or refused.
-/

namespace MoveRating

open Reckoning

/-- No rate of the tariff is larger than `M`, whatever its sign. -/
structure Tariff.RatesWithin (t : Tariff) (M : Nat) : Prop where
  /-- The rates of the longhaul brackets. -/
  baseLinehaul : ∀ r ∈ t.baseLinehaul, r.rate.toInt.natAbs ≤ M
  /-- The rates of the shorthaul brackets. -/
  shorthaul : ∀ r ∈ t.shorthaul, r.rate.toInt.natAbs ≤ M
  /-- The rates of the service areas. -/
  serviceArea : ∀ code, ∀ r ∈ t.serviceAreaRates code,
    ∀ rate ∈ [r.linehaulFactor, r.serviceCharge, r.sitFirstDay, r.sitAdditionalDay,
      r.sitPickupDelivery], rate.toInt.natAbs ≤ M

/-! ### Bounds on single figures -/

/-- The integer is at most `b`, whatever its sign. -/
def Within (b : Nat) (n : Int) : Prop := n.natAbs ≤ b

/-- A bound that fits a word. -/
def WordBound (b : Nat) : Prop := (b : Int) ≤ Int64.maxValue.toInt

theorem WordBound.mono {a b : Nat} (hb : WordBound b) (hab : a ≤ b) : WordBound a :=
  Int.le_trans (Int.ofNat_le.2 hab) hb

theorem Within.fits {b : Nat} {n : Int} (h : Within b n) (hb : WordBound b) : Fits n :=
  fits_of_natAbs_le (hb.mono h)

theorem Within.add {a b : Nat} {m n : Int} (hm : Within a m) (hn : Within b n) :
    Within (a + b) (m + n) :=
  Nat.le_trans (Int.natAbs_add_le m n) (Nat.add_le_add hm hn)

theorem Within.mul {a b : Nat} {m n : Int} (hm : Within a m) (hn : Within b n) :
    Within (a * b) (m * n) := by
  unfold Within
  rw [Int.natAbs_mul]
  exact Nat.mul_le_mul hm hn

theorem Within.mono {a b : Nat} {n : Int} (h : Within a n) (hab : a ≤ b) : Within b n :=
  Nat.le_trans h hab

theorem within_netOf {rate : DiscountRate} (hrate : rate.fraction.isUnit = true) {b : Nat} {n : Int}
    (h : Within b n) : Within b (rate.netOf n) :=
  Nat.le_trans (DiscountRate.natAbs_netOf_le hrate n) h

theorem keeps_figure {cause : Overflow} {b : Nat} {n : Int} (hn : Within b n) (hb : WordBound b) :
    Keeps Fits (Within b) (figure cause n) := .figure (hn.fits hb) hn

/-- A running total is bounded by all that goes into it. -/
theorem keeps_total_cons {a b : Nat} {start n : Int} {amounts : List Int} {P : Int → Prop}
    (hstart : Within a start) (hn : Within b n) (hb : WordBound (a + b))
    (h : ∀ s, Within (a + b) s → Keeps Fits P (total s amounts)) :
    Keeps Fits P (total start (n :: amounts)) := by
  change Keeps Fits P (figure .sum (start + n) >>= fun s => total s amounts)
  exact Keeps.bind (keeps_figure (hstart.add hn) hb) h

/-! ### Bounds on charges -/

section

variable {t : Tariff} {M : Nat} (hrates : t.RatesWithin M) {cwt : Cwt} {c : Nat}
  (hcwt : Within c cwt.toInt)

include hrates in
theorem within_of_serviceAreaFor {zip3 : UInt32} {date : Date} {area : ServiceAreaRate}
    (harea : t.serviceAreaFor zip3 date = .ok area) {rate : Cents}
    (hrate : rate ∈ [area.linehaulFactor, area.serviceCharge, area.sitFirstDay,
      area.sitAdditionalDay, area.sitPickupDelivery]) : Within M rate.toInt := by
  obtain ⟨row, -, hfilter⟩ := Tariff.serviceAreaFor_eq_ok_iff.1 harea
  have hmem : area ∈ t.serviceAreaRates row.serviceArea :=
    (List.mem_filter.1 (hfilter ▸ List.mem_singleton_self area)).1
  exact hrates.serviceArea row.serviceArea area hmem rate hrate

include hrates in
theorem within_of_shorthaulRate? {n : Int} {rate : Cents} (h : t.shorthaulRate? n = some rate) :
    Within M rate.toInt := by
  obtain ⟨r, hr, rfl⟩ := Option.map_eq_some_iff.1 h
  exact hrates.shorthaul r (List.mem_of_find?_eq_some hr)

include hrates in
theorem within_of_longhaulRate? {miles : UInt32} {n : Int} {rate : Cents}
    (h : t.longhaulRate? miles n = some rate) : Within M rate.toInt := by
  obtain ⟨r, hr, rfl⟩ := Option.map_eq_some_iff.1 h
  exact hrates.baseLinehaul r (List.mem_of_find?_eq_some hr)

include hrates hcwt

theorem keeps_reckonTransportation {miles : UInt32} (hmiles : WordBound (799 * c))
    (hcharge : WordBound (M * c)) :
    Keeps Fits (Within (M * c)) (t.reckonTransportation miles cwt) := by
  unfold Tariff.reckonTransportation
  by_cases h : miles.toNat < 800
  · have hmile : Within 799 (miles.toNat : Int) := by
      unfold Within
      omega
    rw [if_pos h]
    refine Keeps.bind (keeps_figure (hmile.mul hcwt) hmiles) fun cwtMiles _ => ?_
    refine Keeps.bind (.lookup fun rate hrate => ?_) fun rate hrate =>
      keeps_figure (Within.mul hrate hcwt) hcharge
    exact within_of_shorthaulRate? hrates (Tariff.require_eq_ok_iff.1 hrate)
  · rw [if_neg h]
    refine Keeps.bind (.lookup fun rate hrate => ?_) fun rate hrate =>
      keeps_figure (Within.mul hrate hcwt) hcharge
    exact within_of_longhaulRate? hrates (Tariff.require_eq_ok_iff.1 hrate)

theorem keeps_reckonAreaCharge {rate : ServiceAreaRate → Cents}
    (hrate : ∀ area : ServiceAreaRate, rate area ∈ [area.linehaulFactor, area.serviceCharge,
      area.sitFirstDay, area.sitAdditionalDay, area.sitPickupDelivery])
    (zip3 : UInt32) (date : Date) (hcharge : WordBound (M * c)) :
    Keeps Fits (Within (M * c)) (t.reckonAreaCharge rate cwt zip3 date) :=
  Keeps.bind (.lookup fun area harea => within_of_serviceAreaFor hrates harea (hrate area))
    fun _ harea => keeps_figure (Within.mul harea hcwt) hcharge

/-- The linehaul charge is the sum of three charges for the weight. -/
theorem keeps_reckonLinehaul {weight : Pounds} {origin destination : UInt32} {date : Date}
    (hweight : weight.toCwt = cwt) (hmiles : WordBound (799 * c))
    (hcharge : WordBound (3 * (M * c))) :
    Keeps Fits (fun l => Within (3 * (M * c)) l.total)
      (t.reckonLinehaul weight origin destination date) := by
  have hone : WordBound (M * c) := hcharge.mono (by omega)
  unfold Tariff.reckonLinehaul
  rw [hweight]
  refine Keeps.bind (.lookup fun _ _ => trivial) fun _ _ => ?_
  refine Keeps.bind (P := fun _ => True) (.lookup fun _ _ => trivial) fun mileage _ => ?_
  refine Keeps.bind (keeps_reckonTransportation hrates hcwt hmiles hone) fun n₁ h₁ => ?_
  refine Keeps.bind (keeps_reckonAreaCharge hrates hcwt (by simp) _ _ hone) fun n₂ h₂ => ?_
  refine Keeps.bind (keeps_reckonAreaCharge hrates hcwt (by simp) _ _ hone) fun n₃ h₃ => ?_
  have h₁₂ : Within (2 * (M * c)) (n₁ + n₂) := (h₁.add h₂).mono (by omega)
  refine Keeps.bind (keeps_figure h₁₂ (hcharge.mono (by omega))) fun n₁₂ h₁₂ => ?_
  have h₁₂₃ : Within (3 * (M * c)) (n₁₂ + n₃) := (Within.add h₁₂ h₃).mono (by omega)
  exact Keeps.bind (keeps_figure h₁₂₃ hcharge) fun n h => .pure h

omit hrates in
/-- Storage by the rates of an area costs one charge for the first day and one for each further
day. -/
theorem keeps_reckonStorageByArea {area : ServiceAreaRate} {days : UInt32} {further : Nat}
    (hfirst : Within M area.sitFirstDay.toInt) (hadditional : Within M area.sitAdditionalDay.toInt)
    (hdays : days.toNat = further + 1) (hM : 1 ≤ M)
    (hcharge : WordBound (M * c + further * (M * c))) :
    Keeps Fits (Within (M * c + further * (M * c)))
      (Tariff.reckonStorageByArea area cwt days .destination) := by
  -- hundredweights times days come before the rate is known
  have hunits : further * c ≤ further * (M * c) :=
    Nat.mul_le_mul_left _ (Nat.le_mul_of_pos_left c hM)
  have hcwtDays : Within (further * c) ((days.toNat - 1 : Nat) * cwt.toInt) := by
    rw [hdays]
    exact Within.mul (Nat.le_refl _) hcwt
  unfold Tariff.reckonStorageByArea
  refine Keeps.bind (keeps_figure (hfirst.mul hcwt) (hcharge.mono (by omega)))
    fun firstDay hfirstDay => ?_
  refine Keeps.bind (keeps_figure hcwtDays (hcharge.mono (by omega))) fun cwtDays hcwtDays => ?_
  have hproduct : Within (further * (M * c)) (area.sitAdditionalDay.toInt * cwtDays) := by
    rw [Nat.mul_left_comm]
    exact hadditional.mul hcwtDays
  refine Keeps.bind (keeps_figure hproduct (hcharge.mono (by omega))) fun rest hrest => ?_
  exact Keeps.bind (keeps_figure (Within.add hfirstDay hrest) hcharge) fun n h => .pure h

/-- Storage at the destination costs at most one charge for the weight on each day. -/
theorem keeps_reckonStorage {days zip3 : UInt32} {date : Date} (hM : 1 ≤ M)
    (hcharge : WordBound (days.toNat * (M * c))) :
    Keeps Fits (Within (days.toNat * (M * c)))
      (t.reckonStorage cwt days zip3 date .destination) := by
  unfold Tariff.reckonStorage
  by_cases hneg : cwt.toInt < 0
  · rw [if_pos hneg]
    exact .lookup nofun
  · rw [if_neg hneg]
    by_cases hdays : days = 0
    · rw [if_pos hdays]
      exact .pure (Nat.zero_le _)
    · rw [if_neg hdays]
      obtain ⟨further, hfurther⟩ : ∃ further, days.toNat = further + 1 :=
        Nat.exists_eq_succ_of_ne_zero fun h => hdays (UInt32.toNat_inj.1 h)
      have hsplit : days.toNat * (M * c) = M * c + further * (M * c) := by
        rw [hfurther, Nat.succ_mul, Nat.add_comm]
      rw [hsplit] at hcharge ⊢
      refine Keeps.bind (P := fun area => t.serviceAreaFor zip3 date = .ok area)
        (.lookup fun _ h => h) fun area harea => ?_
      have hfirst : Within M area.sitFirstDay.toInt :=
        within_of_serviceAreaFor hrates harea (by simp)
      have hadditional : Within M area.sitAdditionalDay.toInt :=
        within_of_serviceAreaFor hrates harea (by simp)
      exact keeps_reckonStorageByArea hcwt hfirst hadditional hfurther hM hcharge

/-! ### Bounds on estimates -/

/-- The estimate of a move sums three charges for linehaul, two for service and one for each day of
storage. -/
theorem keeps_reckonPpm {q : PpmEstimateRequest} (hweight : q.weight.toCwt = cwt) (hM : 1 ≤ M)
    (hmiles : WordBound (799 * c)) (hcharge : WordBound ((q.daysInStorage.toNat + 5) * (M * c))) :
    Keeps Fits (fun _ => True) (t.reckonPpm q) := by
  rw [Nat.add_mul] at hcharge
  have hone : WordBound (M * c) := hcharge.mono (by omega)
  unfold Tariff.reckonPpm
  rw [hweight]
  refine Keeps.bind (keeps_reckonLinehaul hrates hcwt hweight hmiles (hcharge.mono (by omega)))
    fun l hl => ?_
  refine Keeps.bind (keeps_reckonAreaCharge hrates hcwt (by simp) _ _ hone) fun n₁ h₁ => ?_
  refine Keeps.bind (keeps_reckonAreaCharge hrates hcwt (by simp) _ _ hone) fun n₂ h₂ => ?_
  refine Keeps.bind (keeps_reckonStorage hrates hcwt hM (hcharge.mono (by omega)))
    fun sit hsit => ?_
  refine Keeps.bind (P := fun discount => discount.linehaul.fraction.isUnit = true ∧
    discount.sit.fraction.isUnit = true)
    (.lookup fun _ h => Tariff.isUnit_of_resolveDiscount h) fun discount hunit => ?_
  -- the service charges are added up twice: for their discount and for the total
  have hservice : Within (2 * (M * c)) (n₁ + n₂) := (h₁.add h₂).mono (by omega)
  refine Keeps.bind (keeps_figure hservice (hcharge.mono (by omega))) fun service hservice => ?_
  have hnet₁ := within_netOf hunit.1 hl
  have hnet₂ := within_netOf hunit.1 hservice
  have hnet₃ := within_netOf hunit.2 hsit
  refine Keeps.bind (P := fun _ => True) ?_ fun gross _ => ?_
  · refine keeps_total_cons hl h₁ (hcharge.mono (by omega)) fun s hs => ?_
    refine keeps_total_cons hs h₂ (hcharge.mono (by omega)) fun s hs => ?_
    exact keeps_total_cons hs hsit (hcharge.mono (by omega)) fun s _ => .pure trivial
  refine Keeps.bind (P := fun _ => True) ?_ fun net _ => .pure trivial
  refine keeps_total_cons hnet₁ hnet₂ (hcharge.mono (by omega)) fun s hs => ?_
  exact keeps_total_cons hs hnet₃ (hcharge.mono (by omega)) fun s _ => .pure trivial

theorem keeps_reckonSit {weight : Pounds} (hweight : weight.toCwt = cwt) (hM : 1 ≤ M)
    {days : UInt32} (hcharge : WordBound (days.toNat * (M * c))) (origin destination : UInt32)
    (date : Date) :
    Keeps Fits (fun _ => True) (t.reckonSit origin destination weight date days) := by
  unfold Tariff.reckonSit
  rw [hweight]
  refine Keeps.bind (.lookup fun _ _ => trivial) fun _ _ => ?_
  refine Keeps.bind (P := fun _ => True) (.lookup fun _ _ => trivial) fun discount _ => ?_
  exact Keeps.bind (keeps_reckonStorage hrates hcwt hM hcharge) fun gross _ => .pure trivial

end

/-- Where `c` hundredweights at the largest rate stay within a word for five charges and all days of
storage, and `799 * c` does, both estimates are made or refused. -/
theorem estimates_of_ratesWithin (t : Tariff) (M : Nat) (hM : 1 ≤ M) (hrates : t.RatesWithin M)
    (q : PpmEstimateRequest) (hweight : 0 ≤ q.weight.toInt)
    (hcharge : q.weight.toInt / 100 * M * (q.daysInStorage.toNat + 5) ≤ Int64.maxValue.toInt)
    (hmiles : 799 * (q.weight.toInt / 100) ≤ Int64.maxValue.toInt) :
    ((∃ e, t.estimatePpm q = .ok e) ∨ ∃ why, t.estimatePpm q = .error (.refused why)) ∧
      ((∃ e, t.estimateSit q.originZip q.destinationZip q.weight q.plannedMoveDate
          q.daysInStorage = .ok e) ∨
        ∃ why, t.estimateSit q.originZip q.destinationZip q.weight q.plannedMoveDate
          q.daysInStorage = .error (.refused why)) := by
  obtain ⟨c, hc⟩ : ∃ c : Nat, q.weight.toInt / 100 = c := Int.eq_ofNat_of_zero_le (by omega)
  have hcwt : Within c q.weight.toCwt.toInt := by
    rw [Pounds.toInt_toCwt hweight, hc]
    exact Nat.le_refl c
  have hmiles' : WordBound (799 * c) := by
    rw [hc] at hmiles
    unfold WordBound
    rw [Int.natCast_mul]
    exact hmiles
  have hcharge' : WordBound ((q.daysInStorage.toNat + 5) * (M * c)) := by
    rw [hc] at hcharge
    unfold WordBound
    rw [Int.natCast_mul, Int.natCast_mul, Int.natCast_add, Int.mul_comm, Int.mul_comm (M : Int)]
    exact hcharge
  have hdays : WordBound (q.daysInStorage.toNat * (M * c)) :=
    hcharge'.mono (Nat.mul_le_mul_right _ (by omega))
  have hppm := keeps_reckonPpm hrates hcwt rfl hM hmiles' hcharge'
  have hsit := keeps_reckonSit hrates hcwt rfl hM hdays q.originZip q.destinationZip
    q.plannedMoveDate
  exact ⟨Priced.not_overflows_iff.1 ((inWords_estimatePpm q).not_overflows_iff.2 hppm.1),
    Priced.not_overflows_iff.1 ((inWords_estimateSit _ _ _ _ _).not_overflows_iff.2 hsit.1)⟩

theorem ratesWithin_sample : Tariff.sample.RatesWithin 55 where
  baseLinehaul := by decide +kernel
  shorthaul := by decide +kernel
  serviceArea := by
    intro code r hr rate hrate
    unfold Tariff.sample at hr
    rw [Tariff.serviceAreaRates_addAll] at hr
    have hmem : r ∈ [RateSheet.sample.originArea, RateSheet.sample.destinationArea] :=
      (List.mem_filter.1 hr).1
    have hall : ∀ r ∈ [RateSheet.sample.originArea, RateSheet.sample.destinationArea],
        ∀ rate ∈ [r.linehaulFactor, r.serviceCharge, r.sitFirstDay, r.sitAdditionalDay,
          r.sitPickupDelivery], rate.toInt.natAbs ≤ 55 := by decide +kernel
    exact hall r hmem rate hrate

theorem estimates_of_ratesWithin_sample :
    Tariff.sample.RatesWithin 55 ∧
      (20 : Int) * 55 * (3 + 5) ≤ Int64.maxValue.toInt ∧
      ((∃ e, Tariff.sample.estimatePpm .sample = .ok e) ∨
        ∃ why, Tariff.sample.estimatePpm .sample = .error (.refused why)) :=
  ⟨ratesWithin_sample, by decide +kernel,
    (estimates_of_ratesWithin .sample 55 (by decide) ratesWithin_sample .sample (by decide +kernel)
      (by decide +kernel) (by decide +kernel)).1⟩

end MoveRating
