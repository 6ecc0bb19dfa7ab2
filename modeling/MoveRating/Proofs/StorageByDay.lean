import Mathlib.Tactic.Ring
import MoveRating.Proofs.Rating

/-!
# Storage day by day

How the charge for storage grows with the days.

* `storageCharge_of_nonneg`: if no rate is negative, what can stop a charge is the product of days
  and weight, or the charge itself.
* `StorageLaw` says what the first day, pickup and delivery and each further day cost, and
  `storageCharge_law` that the charges of a tariff keep it.
-/

namespace MoveRating

open Reckoning

/-- No rate of the service area for storage is negative. -/
structure ServiceAreaRate.StorageNonneg (area : ServiceAreaRate) : Prop where
  firstDay : 0 ≤ area.sitFirstDay.toInt
  additionalDay : 0 ≤ area.sitAdditionalDay.toInt
  pickupDelivery : 0 ≤ area.sitPickupDelivery.toInt

/-- What storage costs by the rates of a service area, for each number of days and at each end. -/
structure StorageLaw (area : ServiceAreaRate) (cwt : Cwt)
    (charge : UInt32 → StorageEnd → Priced Cents) : Prop where
  /-- One day at the destination costs the rate of the first day. -/
  firstDay : ∀ amount, charge 1 .destination = .ok amount ↔
    amount.toInt = area.sitFirstDay.toInt * cwt.toInt
  /-- What is charged at the origin is charged at the destination as well, but for pickup and
  delivery. -/
  pickupDelivery : ∀ days amount, days ≠ 0 → charge days .origin = .ok amount →
    ∃ atDestination, charge days .destination = .ok atDestination ∧
      amount.toInt - atDestination.toInt = area.sitPickupDelivery.toInt * cwt.toInt
  /-- Unless the product of the further days and the weight or the sum is too large, the charge is
  the sum of its parts. -/
  charged : area.StorageNonneg → ∀ days stored amount, days ≠ 0 →
    (charge days stored = .ok amount ↔ Fits ((days.toNat - 1 : Nat) * cwt.toInt) ∧
      amount.toInt = storageFigure area cwt.toInt days.toNat + pickupFigure area cwt.toInt stored)
  /-- If there is a charge for more days, there is one for fewer, and each day between costs the
  rate of an additional day. -/
  fewerDays : area.StorageNonneg → ∀ days more stored amount, days ≠ 0 →
    days.toNat + more.toNat < UInt32.size → charge (days + more) stored = .ok amount →
    ∃ earlier, charge days stored = .ok earlier ∧
      amount.toInt - earlier.toInt = more.toNat * area.sitAdditionalDay.toInt * cwt.toInt

namespace Tariff

variable {t : Tariff} {area : ServiceAreaRate} {cwt : Cwt}

/-! ### Days -/

/-- Storage at the origin is reckoned as storage at the destination and then for pickup and
delivery. -/
theorem reckonStorageByArea_origin (area : ServiceAreaRate) (cwt : Cwt) (days : UInt32) :
    reckonStorageByArea area cwt days .origin =
      (reckonStorageByArea area cwt days .destination >>= fun total => do
        let pickup ← figure .product (area.sitPickupDelivery.toInt * cwt.toInt)
        figure .sum (total + pickup)) := rfl

/-- The days after the first cost the same, each of them. -/
theorem storageFigure_add (area : ServiceAreaRate) {days : Nat} (hdays : days ≠ 0) (cwt : Int)
    (more : Nat) :
    storageFigure area cwt (days + more) - storageFigure area cwt days =
      more * area.sitAdditionalDay.toInt * cwt := by
  unfold storageFigure
  rw [if_neg hdays, if_neg (by omega)]
  push_cast
  ring

theorem storageFigure_one (area : ServiceAreaRate) (cwt : Int) :
    storageFigure area cwt 1 = area.sitFirstDay.toInt * cwt := by
  unfold storageFigure
  rw [if_neg Nat.one_ne_zero]
  push_cast
  ring

theorem storageFigure_nonneg (harea : area.StorageNonneg) {weight : Int} (hweight : 0 ≤ weight)
    {days : Nat} (hdays : days ≠ 0) : 0 ≤ storageFigure area weight days := by
  rw [storageFigure_of_ne hdays]
  exact Int.add_nonneg (Int.mul_nonneg harea.firstDay hweight)
    (Int.mul_nonneg harea.additionalDay (Int.mul_nonneg (Int.natCast_nonneg _) hweight))

theorem pickupFigure_nonneg (harea : area.StorageNonneg) {weight : Int} (hweight : 0 ≤ weight)
    (stored : StorageEnd) : 0 ≤ pickupFigure area weight stored := by
  cases stored with
  | origin => exact Int.mul_nonneg harea.pickupDelivery hweight
  | destination => exact Int.le_refl 0

/-- The figures are no larger than the charge, apart from the product of days and weight: the rate
by which this is multiplied may be nothing. -/
theorem allFit_reckonStorageByArea (harea : area.StorageNonneg) (hcwt : 0 ≤ cwt.toInt)
    {days : UInt32} (hdays : days ≠ 0) (stored : StorageEnd) :
    (reckonStorageByArea area cwt days stored).AllFit ↔
      Fits ((days.toNat - 1 : Nat) * cwt.toInt) ∧
        Fits (storageFigure area cwt.toInt days.toNat + pickupFigure area cwt.toInt stored) := by
  have hpos : days.toNat ≠ 0 := fun h => hdays (UInt32.toNat_inj.1 h)
  have hfirst := Int.mul_nonneg harea.firstDay hcwt
  have hpickup := Int.mul_nonneg harea.pickupDelivery hcwt
  have hfurther := Int.mul_nonneg harea.additionalDay
    (Int.mul_nonneg (Int.natCast_nonneg (days.toNat - 1)) hcwt)
  rw [storageFigure_of_ne hpos]
  cases stored with
  | destination =>
    simp only [reckonStorageByArea, allFit_bind, allFit_figure, allFit_pure, result_figure,
      Except.ok.injEq, forall_eq', pickupFigure, Int.add_zero, and_true]
    constructor
    · rintro ⟨-, hunits, -, htotal⟩
      exact ⟨hunits, htotal⟩
    · rintro ⟨hunits, htotal⟩
      exact ⟨htotal.of_le hfirst (by omega), hunits, htotal.of_le hfurther (by omega), htotal⟩
  | origin =>
    simp only [reckonStorageByArea, allFit_bind, allFit_figure, result_figure, Except.ok.injEq,
      forall_eq', pickupFigure]
    constructor
    · rintro ⟨-, hunits, -, -, -, htotal⟩
      exact ⟨hunits, htotal⟩
    · rintro ⟨hunits, htotal⟩
      exact ⟨htotal.of_le hfirst (by omega), hunits, htotal.of_le hfurther (by omega),
        htotal.of_le (by omega) (by omega), htotal.of_le hpickup (by omega), htotal⟩

/-! ### Charges -/

theorem storageCharge_of_neg (h : cwt.toInt < 0) (days zip3 : UInt32) (date : Date)
    (stored : StorageEnd) :
    t.storageCharge cwt days zip3 date stored =
      .error (.refused (.invalidInput "cwt" (cwt.text ++ " is negative"))) := by
  have hneg : cwt.val < 0 := Int64.lt_iff_toInt_lt.2 h
  unfold storageCharge
  rw [if_pos hneg]
  rfl

/-- Without days, the postal area and the date do not matter. -/
theorem storageCharge_zero (h : 0 ≤ cwt.toInt) (zip3 : UInt32) (date : Date)
    (stored : StorageEnd) : t.storageCharge cwt 0 zip3 date stored = .ok .zero := by
  have hnonneg : ¬cwt.val < 0 := fun hneg => Int.not_lt.2 h (Int64.lt_iff_toInt_lt.1 hneg)
  unfold storageCharge
  rw [if_neg hnonneg, if_pos rfl]
  rfl

section

variable {zip3 : UInt32} {date : Date} {days : UInt32} {stored : StorageEnd} {amount : Cents}
  (hcwt : 0 ≤ cwt.toInt) (harea : t.serviceAreaFor zip3 date = .ok area)

include hcwt harea

/-- There is a charge if all figures fit. -/
theorem exists_storageCharge (hdays : days ≠ 0)
    (hfit : (reckonStorageByArea area cwt days stored).AllFit) :
    ∃ amount, t.storageCharge cwt days zip3 date stored = .ok amount ∧ amount.toInt =
      storageFigure area cwt.toInt days.toNat + pickupFigure area cwt.toInt stored := by
  rw [(inWords_storageCharge cwt days zip3 date stored).exists_ok_iff,
    reckonStorage_eq hcwt harea hdays]
  exact ⟨hfit, result_reckonStorageByArea hdays stored⟩

theorem storageCharge_eq_ok_iff (hdays : days ≠ 0) :
    t.storageCharge cwt days zip3 date stored = .ok amount ↔
      (reckonStorageByArea area cwt days stored).AllFit ∧ amount.toInt =
        storageFigure area cwt.toInt days.toNat + pickupFigure area cwt.toInt stored := by
  rw [(inWords_storageCharge cwt days zip3 date stored).eq_ok_iff fun _ _ => Cents.toInt_inj.1,
    reckonStorage_eq hcwt harea hdays, result_reckonStorageByArea hdays, Except.ok.injEq, eq_comm]

theorem storageCharge_firstDay :
    t.storageCharge cwt 1 zip3 date .destination = .ok amount ↔
      amount.toInt = area.sitFirstDay.toInt * cwt.toInt := by
  rw [storageCharge_eq_ok_iff hcwt harea (by decide)]
  change _ ∧ amount.toInt = storageFigure area cwt.toInt 1 + 0 ↔ _
  rw [Int.add_zero, storageFigure_one]
  refine and_iff_right_of_imp fun hamount => ?_
  -- the figures are zeros and, twice, this amount
  have hfirst := amount.fits_toInt
  rw [hamount] at hfirst
  have hzero : Fits 0 := by decide
  simp [reckonStorageByArea, allFit_bind, hfirst, hzero]

theorem storageCharge_origin (hdays : days ≠ 0)
    (h : t.storageCharge cwt days zip3 date .origin = .ok amount) :
    ∃ atDestination, t.storageCharge cwt days zip3 date .destination = .ok atDestination ∧
      amount.toInt - atDestination.toInt = area.sitPickupDelivery.toInt * cwt.toInt := by
  obtain ⟨hfit, hamount⟩ := (storageCharge_eq_ok_iff hcwt harea hdays).1 h
  rw [reckonStorageByArea_origin, allFit_bind] at hfit
  obtain ⟨atDestination, hcharge, heq⟩ := exists_storageCharge hcwt harea hdays hfit.1
  refine ⟨atDestination, hcharge, ?_⟩
  simp only [pickupFigure] at hamount heq
  omega

theorem storageCharge_of_nonneg (hrates : area.StorageNonneg) (hdays : days ≠ 0) :
    t.storageCharge cwt days zip3 date stored = .ok amount ↔
      Fits ((days.toNat - 1 : Nat) * cwt.toInt) ∧ amount.toInt =
        storageFigure area cwt.toInt days.toNat + pickupFigure area cwt.toInt stored := by
  rw [storageCharge_eq_ok_iff hcwt harea hdays, allFit_reckonStorageByArea hrates hcwt hdays]
  constructor
  · rintro ⟨⟨hunits, -⟩, hamount⟩
    exact ⟨hunits, hamount⟩
  · rintro ⟨hunits, hamount⟩
    rw [← hamount]
    exact ⟨⟨hunits, amount.fits_toInt⟩, rfl⟩

theorem storageCharge_fewerDays (hrates : area.StorageNonneg) {more : UInt32} (hdays : days ≠ 0)
    (hsize : days.toNat + more.toNat < UInt32.size)
    (h : t.storageCharge cwt (days + more) zip3 date stored = .ok amount) :
    ∃ earlier, t.storageCharge cwt days zip3 date stored = .ok earlier ∧
      amount.toInt - earlier.toInt = more.toNat * area.sitAdditionalDay.toInt * cwt.toInt := by
  have hsum : (days + more).toNat = days.toNat + more.toNat := by
    rw [UInt32.toNat_add]
    exact Nat.mod_eq_of_lt hsize
  have hpos : days.toNat ≠ 0 := fun h => hdays (UInt32.toNat_inj.1 h)
  have hdays' : days + more ≠ 0 := by
    rintro h
    rw [h] at hsum
    change 0 = _ at hsum
    omega
  obtain ⟨hunits, hamount⟩ := (storageCharge_of_nonneg hcwt harea hrates hdays').1 h
  rw [hsum] at hunits hamount
  have hgrowth := storageFigure_add area hpos cwt.toInt more.toNat
  -- both figures for fewer days lie below those for more
  have hunits' : Fits ((days.toNat - 1 : Nat) * cwt.toInt) :=
    hunits.of_le (Int.mul_nonneg (Int.natCast_nonneg _) hcwt)
      (Int.mul_le_mul_of_nonneg_right (by omega) hcwt)
  have hmore : 0 ≤ more.toNat * area.sitAdditionalDay.toInt * cwt.toInt :=
    Int.mul_nonneg (Int.mul_nonneg (Int.natCast_nonneg _) hrates.additionalDay) hcwt
  have hfits : Fits (storageFigure area cwt.toInt days.toNat +
      pickupFigure area cwt.toInt stored) :=
    amount.fits_toInt.of_le
      (Int.add_nonneg (storageFigure_nonneg hrates hcwt hpos)
        (pickupFigure_nonneg hrates hcwt stored))
      (by omega)
  obtain ⟨earlier, hearlier⟩ := Cents.exists_toInt_eq hfits
  refine ⟨earlier, (storageCharge_of_nonneg hcwt harea hrates hdays).2 ⟨hunits', hearlier⟩, ?_⟩
  omega

end

/-! ### The law -/

/-- A weight must not be negative, and no days of storage cost nothing. By the rates of one service
area, every day has its price, and what can be charged for more days can be charged for fewer. -/
theorem storageCharge_law (t : Tariff) (cwt : Cwt) (zip3 : UInt32) (date : Date) :
    (cwt.toInt < 0 → ∀ days stored, t.storageCharge cwt days zip3 date stored =
      .error (.refused (.invalidInput "cwt" (cwt.text ++ " is negative")))) ∧
      (0 ≤ cwt.toInt → (∀ stored, t.storageCharge cwt 0 zip3 date stored = .ok .zero) ∧
        ∀ area, t.serviceAreaFor zip3 date = .ok area →
          StorageLaw area cwt fun days stored => t.storageCharge cwt days zip3 date stored) := by
  refine ⟨fun hcwt days stored => storageCharge_of_neg hcwt days zip3 date stored,
    fun hcwt => ⟨storageCharge_zero hcwt zip3 date, fun area harea => ?_⟩⟩
  exact
    { firstDay := fun amount => storageCharge_firstDay hcwt harea
      pickupDelivery := fun days amount hdays => storageCharge_origin hcwt harea hdays
      charged := fun hrates days stored amount hdays =>
        storageCharge_of_nonneg hcwt harea hrates hdays
      fewerDays := fun hrates days more stored amount hdays =>
        storageCharge_fewerDays hcwt harea hrates hdays }

/-- Two more days of storage at the origin of the sample move, no days in an area that is not in the
tariff, and a negative weight. -/
theorem storageCharge_law_sample :
    (∃ later earlier, sample.storageCharge ⟨20⟩ (3 + 2) 10 ⟨2018, 6, 1, by decide⟩ .origin =
        .ok later ∧
      sample.storageCharge ⟨20⟩ 3 10 ⟨2018, 6, 1, by decide⟩ .origin = .ok earlier ∧
      later.toInt - earlier.toInt = 2 * 4 * 20) ∧
      sample.storageCharge ⟨20⟩ 0 99 ⟨2018, 6, 1, by decide⟩ .origin = .ok .zero ∧
      sample.storageCharge ⟨-1⟩ 0 99 ⟨2018, 6, 1, by decide⟩ .origin =
        .error (.refused (.invalidInput "cwt" "-1 cwt is negative")) := by
  refine ⟨?_, ((storageCharge_law sample ⟨20⟩ 99 _).2 (by decide)).1 .origin,
    (storageCharge_law sample ⟨-1⟩ 99 _).1 (by decide) 0 .origin⟩
  have harea : sample.serviceAreaFor 10 ⟨2018, 6, 1, by decide⟩ =
      .ok RateSheet.sample.originArea := by
    decide +kernel
  have hlater : (sample.storageCharge ⟨20⟩ (3 + 2) 10 ⟨2018, 6, 1, by decide⟩ .origin).isOk =
      true := by
    decide +kernel
  obtain ⟨later, hlater⟩ := isOk_eq_true_iff.1 hlater
  have hlaw := ((storageCharge_law sample ⟨20⟩ 10 ⟨2018, 6, 1, by decide⟩).2 (by decide)).2 _ harea
  obtain ⟨earlier, hearlier, heq⟩ := hlaw.fewerDays ⟨by decide, by decide, by decide⟩ 3 2 .origin
    later (by decide) (by decide) hlater
  exact ⟨later, earlier, hlater, hearlier, heq⟩

end Tariff

end MoveRating
