import MoveRating.Discount
import MoveRating.Proofs.Amount
import MoveRating.Proofs.Fitting
import MoveRating.Proofs.Outcome

/-!
# What a discount leaves

`DiscountRate.netOf` is what a discount leaves of an exact charge: the product with the part of the
charge that is kept, fitted to a decimal and rounded to whole cents.

* `DiscountRate.natAbs_netOf_le`, `DiscountRate.netOf_nonneg` and `DiscountRate.netOf_nonpos`: for
  a rate between zero and one it lies between nothing and the charge.
* `DiscountRate.apply_eq_ok`: such a rate can be applied to every amount, and leaves exactly this.
-/

namespace MoveRating

namespace Decimal

open Numeral (tenPow)

theorem isUnit_iff {d : Decimal} :
    d.isUnit = true ↔ 0 ≤ d.coefficient ∧ d.coefficient ≤ tenPow d.places := by
  simp [isUnit]

/-- One less the decimal, over the same power of ten. -/
def keptCoefficient (d : Decimal) : Int := tenPow d.places - d.coefficient

variable {d : Decimal}

theorem keptCoefficient_nonneg (h : d.isUnit = true) : 0 ≤ d.keptCoefficient := by
  have := (isUnit_iff.1 h).2
  unfold keptCoefficient
  omega

theorem keptCoefficient_le (h : d.isUnit = true) : d.keptCoefficient ≤ tenPow d.places := by
  have := (isUnit_iff.1 h).1
  unfold keptCoefficient
  omega

theorem natAbs_keptCoefficient_le (h : d.isUnit = true) :
    d.keptCoefficient.natAbs ≤ tenPow d.places := by
  have h0 := keptCoefficient_nonneg h
  have h1 := keptCoefficient_le h
  omega

/-- What a discount between zero and one keeps is a decimal of the same places. -/
theorem exists_oneMinus? (h : d.isUnit = true) :
    ∃ kept, d.oneMinus? = some kept ∧ kept.coefficient = d.keptCoefficient ∧
      kept.places = d.places := by
  have hsize : d.keptCoefficient.natAbs < sizeLimit :=
    calc d.keptCoefficient.natAbs ≤ tenPow d.places := natAbs_keptCoefficient_le h
      _ ≤ tenPow 28 := Numeral.tenPow_le d.places_le
      _ < sizeLimit := by decide
  obtain ⟨kept, hkept⟩ := ofParts?_eq_some hsize d.places_le
  refine ⟨kept, ?_, coefficient_of_ofParts? hkept⟩
  exact (fit?_eq_ofParts? hsize d.places_le).trans hkept

/-- A product with a zero is fitted as any other. -/
theorem map_nearestInt_mul? (a b : Decimal) (hp : a.places + b.places ≤ 28) :
    (a.mul? b).map nearestInt =
      (fit? (a.coefficient * b.coefficient) (a.places + b.places)).map nearestInt := by
  unfold mul?
  split
  · next hzero =>
    have hprod : a.coefficient * b.coefficient = 0 := by
      rw [← natAbs_coefficient a, ← natAbs_coefficient b] at hzero
      rw [Int.natAbs_eq_zero, Int.natAbs_eq_zero] at hzero
      exact Int.mul_eq_zero.2 hzero
    rw [hprod, fit?_eq_ofParts? (by decide) hp]
    obtain ⟨d, hd⟩ := ofParts?_eq_some (c := 0) (p := a.places + b.places) (by decide) hp
    have hcoefficient := (coefficient_of_ofParts? hd).1
    have hd0 : d.nearestInt = 0 :=
      Int.le_antisymm (nearestInt_nonpos (Int.le_of_eq hcoefficient))
        (nearestInt_nonneg (Int.le_of_eq hcoefficient.symm))
    rw [hd, Option.map_some, Option.map_some, hd0]
    rfl
  · rfl

end Decimal

namespace DiscountRate

variable (rate : DiscountRate)

/-- What the discount leaves of a charge, in whole cents. -/
def netOf (gross : Int) : Int :=
  match Decimal.fit? (gross * rate.fraction.keptCoefficient) rate.fraction.places with
  | some net => net.nearestInt
  | none => 0

variable {rate}

/-- The charge times the part that is kept. -/
theorem natAbs_product_le (h : rate.fraction.isUnit = true) (gross : Int) :
    (gross * rate.fraction.keptCoefficient).natAbs ≤
      gross.natAbs * Numeral.tenPow rate.fraction.places := by
  rw [Int.natAbs_mul]
  exact Nat.mul_le_mul_left _ (Decimal.natAbs_keptCoefficient_le h)

theorem natAbs_netOf_le (h : rate.fraction.isUnit = true) (gross : Int) :
    (rate.netOf gross).natAbs ≤ gross.natAbs := by
  unfold netOf
  split
  · next net hnet => exact Decimal.natAbs_nearestInt_le hnet (natAbs_product_le h gross)
  · exact Nat.zero_le _

theorem netOf_nonneg (h : rate.fraction.isUnit = true) {gross : Int} (hg : 0 ≤ gross) :
    0 ≤ rate.netOf gross := by
  unfold netOf
  split
  · next net hnet =>
    exact Decimal.nearestInt_nonneg_of_fit? hnet
      (Int.mul_nonneg hg (Decimal.keptCoefficient_nonneg h))
  · exact Int.le_refl 0

theorem netOf_nonpos (h : rate.fraction.isUnit = true) {gross : Int} (hg : gross ≤ 0) :
    rate.netOf gross ≤ 0 := by
  unfold netOf
  split
  · next net hnet =>
    exact Decimal.nearestInt_nonpos_of_fit? hnet
      (Int.mul_nonpos_of_nonpos_of_nonneg hg (Decimal.keptCoefficient_nonneg h))
  · exact Int.le_refl 0

theorem fits_netOf (h : rate.fraction.isUnit = true) {gross : Int} (hg : Fits gross) :
    Fits (rate.netOf gross) := by
  have habs := natAbs_netOf_le h gross
  unfold Fits at hg ⊢
  rw [Int64.toInt_minValue, Int64.toInt_maxValue] at hg ⊢
  rcases Int.le_total 0 gross with h0 | h0
  · have := netOf_nonneg h h0
    omega
  · have := netOf_nonpos h h0
    omega

/-- What is left of an amount is the exact product, fitted and rounded. -/
theorem exists_fit?_product (h : rate.fraction.isUnit = true) {gross : Int} (hg : Fits gross) :
    ∃ net, Decimal.fit? (gross * rate.fraction.keptCoefficient) rate.fraction.places = some net ∧
      rate.netOf gross = net.nearestInt := by
  have hsize : gross.natAbs < Decimal.sizeLimit := by
    unfold Fits at hg
    rw [Int64.toInt_minValue, Int64.toInt_maxValue] at hg
    exact Nat.lt_of_le_of_lt (show gross.natAbs ≤ 9223372036854775808 by omega) (by decide)
  obtain ⟨net, hnet⟩ := Decimal.isSome_fit? hsize (natAbs_product_le h gross)
  refine ⟨net, hnet, ?_⟩
  unfold netOf
  rw [hnet]

/-- The two decimals that an application goes through: the part that is kept, and the product. -/
theorem exists_mul? (h : rate.fraction.isUnit = true) (gross : Cents) :
    ∃ kept product, rate.fraction.oneMinus? = some kept ∧
      (Decimal.ofWord gross.val).mul? kept = some product ∧
      product.nearestInt = rate.netOf gross.toInt := by
  obtain ⟨kept, hkept, hcoefficient, hplaces⟩ := Decimal.exists_oneMinus? h
  have hplaces' : (Decimal.ofWord gross.val).places + kept.places = rate.fraction.places :=
    (Nat.zero_add _).trans hplaces
  obtain ⟨net, hnet, hnetOf⟩ := exists_fit?_product h gross.fits_toInt
  -- the product of the two decimals is fitted as the exact one, with the places of the rate
  have hmul := Decimal.map_nearestInt_mul? (Decimal.ofWord gross.val) kept
    (by rw [hplaces']; exact rate.fraction.places_le)
  rw [hplaces', Decimal.coefficient_ofWord, hcoefficient,
    show gross.val.toInt = gross.toInt from rfl, hnet, Option.map_some,
    Option.map_eq_some_iff] at hmul
  obtain ⟨product, hproduct, hnearest⟩ := hmul
  exact ⟨kept, product, hkept, hproduct, hnearest.trans hnetOf.symm⟩

/-- A discount between zero and one can be applied to every amount. -/
theorem apply_eq_ok (h : rate.fraction.isUnit = true) (gross : Cents) :
    ∃ net, rate.apply gross = .ok net ∧ net.toInt = rate.netOf gross.toInt := by
  obtain ⟨kept, product, hkept, hproduct, hnearest⟩ := exists_mul? h gross
  -- nothing is cut off, since what is left is no larger than the charge
  refine ⟨⟨Int64.ofInt (rate.netOf gross.toInt)⟩, ?_,
    toInt_ofInt_of_fits (fits_netOf h gross.fits_toInt)⟩
  unfold apply
  refine bind_eq_ok_iff.2 ⟨kept, by rw [hkept]; rfl, bind_eq_ok_iff.2 ⟨product, ?_, ?_⟩⟩
  · rw [hproduct]
    rfl
  · rw [hnearest]
    rfl

end DiscountRate

end MoveRating
