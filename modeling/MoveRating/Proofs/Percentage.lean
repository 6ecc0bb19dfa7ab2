import MoveRating.Proofs.Expansion
import MoveRating.Proofs.Lookup

/-!
# Rates as percentages

A rate is multiplied by a hundred to be written. The product may have more digits than a decimal
holds, but then the two zeros at its end make room: what is dropped is always zero.

* `Decimal.dropDigits_mul_tenPow` : zeros are dropped without rounding.
* `Decimal.exists_hundredfold` : the hundredfold of a rate is exact.
* `DiscountRate.percent_verdict` : the percentage of a rate is the expansion of its hundredfold. It
  is read back, and two rates share it just if they have one value.
-/

namespace MoveRating

namespace Rounding

/-- An exact quotient is not rounded. -/
theorem halfEven_mul {d : Nat} (hd : 0 < d) (n : Nat) : halfEven (n * d) d = n := by
  unfold halfEven
  simp [Nat.mul_div_cancel _ hd, hd.ne]

end Rounding

namespace Decimal

open Numeral (tenPow)

variable {c : Int} {n k p : Nat} {d : Decimal}

/-! ### The hundredfold -/

/-- Final zeros are dropped without rounding. -/
theorem dropDigits_mul_tenPow (hk : k ≤ n) (c : Int) :
    dropDigits (c * tenPow n) k = c * tenPow (n - k) := by
  have hpos : (0 : Int) < tenPow n := Int.natCast_pos.2 (Numeral.tenPow_pos n)
  have hsize : (c * tenPow n).natAbs = c.natAbs * tenPow (n - k) * tenPow k := by
    rw [Int.natAbs_mul, Int.natAbs_natCast, Nat.mul_assoc, Numeral.tenPow_sub_mul hk]
  unfold dropDigits
  dsimp only
  rw [hsize, Rounding.halfEven_mul (Numeral.tenPow_pos k), Int.natCast_mul]
  by_cases hc : c < 0
  · rw [if_pos (Int.mul_neg_of_neg_of_pos hc hpos), ← Int.neg_mul,
      Int.ofNat_natAbs_of_nonpos (Int.le_of_lt hc), Int.neg_neg]
  · have hc : 0 ≤ c := Int.not_lt.1 hc
    rw [if_neg (Int.not_lt.2 (Int.mul_nonneg hc (Int.le_of_lt hpos))), Int.natAbs_of_nonneg hc]

/-- A coefficient that fits but for the zeros at its end is not rounded. -/
theorem toRat_of_fit?_mul_tenPow (hc : c.natAbs < sizeLimit) (hp : p ≤ 28)
    (h : fit? (c * tenPow n) p = some d) : d.toRat = c * tenPow n / tenPow p := by
  obtain ⟨k, hkp, hcoefficient, hplaces, hminimal⟩ := exists_minimal_of_fit? h
  have hkn : k ≤ n := by
    by_contra hlt
    -- it would have fitted without the zeros
    have hnone := hminimal n (Nat.lt_of_not_le hlt)
    obtain ⟨d', hd'⟩ := ofParts?_eq_some hc (Nat.le_trans (Nat.sub_le p n) hp)
    rw [dropDigits_mul_tenPow (Nat.le_refl n), Nat.sub_self, Numeral.tenPow_zero, Int.natCast_one,
      Int.mul_one, hd'] at hnone
    cases hnone
  have hzeros : (tenPow n : Rat) = tenPow (n - k) * tenPow k := by
    exact_mod_cast (Numeral.tenPow_sub_mul hkn).symm
  have hpow : (tenPow p : Rat) = tenPow (p - k) * tenPow k := by
    exact_mod_cast (Numeral.tenPow_sub_mul hkp).symm
  rw [toRat, hcoefficient, hplaces, dropDigits_mul_tenPow hkn, hzeros, hpow, ← mul_assoc,
    mul_div_mul_right _ _ (tenPow_cast_pos k).ne']
  push_cast
  rfl

/-- The hundredfold of a rate is a decimal, and exact. -/
theorem exists_hundredfold (h : d.isUnit = true) :
    ∃ m, d.mul? hundred = some m ∧ m.toRat = 100 * d.toRat := by
  unfold mul?
  split
  · next hzero =>
    have hcoefficient : d.coefficient = 0 := by
      rw [← Int.natAbs_eq_zero, natAbs_coefficient]
      exact hzero.resolve_right (by decide)
    have hvalue : d.toRat = 0 := by simp [toRat, hcoefficient]
    refine ⟨zero, rfl, ?_⟩
    rw [hvalue]
    simp [toRat, zero, coefficient]
  · have hle : (d.coefficient * tenPow 2).natAbs ≤ 100 * tenPow d.places := by
      have hunit := isUnit_iff.1 h
      rw [Int.natAbs_mul, Int.natAbs_natCast, Nat.mul_comm]
      exact Nat.mul_le_mul_left _ (by omega)
    obtain ⟨m, hm⟩ := isSome_fit? (by decide) hle
    refine ⟨m, hm, ?_⟩
    rw [toRat_of_fit?_mul_tenPow (natAbs_coefficient d ▸ d.size_lt) d.places_le hm, toRat]
    have hhundred : (tenPow 2 : Rat) = 100 := by norm_num [tenPow]
    rw [hhundred]
    ring

end Decimal

/-! ### Percentages -/

namespace DiscountRate

variable {rate rate' : DiscountRate}

/-- The percentage of a rate is the text of a normal decimal. -/
theorem exists_percent (h : rate.fraction.isUnit = true) :
    ∃ m : Decimal, rate.percent = .ok (m.normalize.text ++ "%") ∧
      m.toRat = 100 * rate.fraction.toRat := by
  obtain ⟨m, hm, hvalue⟩ := Decimal.exists_hundredfold h
  refine ⟨m, ?_, hvalue⟩
  unfold percent
  rw [hm]
  rfl

theorem exists_percent_expansion (h : rate.fraction.isUnit = true) :
    ∃ x : Expansion (100 * rate.fraction.toRat),
      rate.percent = .ok (String.ofList x.chars ++ "%") ∧
      ∃ d, Decimal.parse? (String.ofList x.chars) = some d ∧
        d.toRat / 100 = rate.fraction.toRat := by
  obtain ⟨m, hpercent, hvalue⟩ := exists_percent h
  have hnormal : m.normalize.toRat = 100 * rate.fraction.toRat := m.toRat_normalize.trans hvalue
  have hnonneg : 0 ≤ 100 * rate.fraction.toRat :=
    mul_nonneg (by norm_num) (Decimal.isUnit_iff_toRat.1 h).1
  obtain ⟨x, hx⟩ := (Decimal.isNormal_normalize m).exists_expansion hnormal hnonneg
  have htext : m.normalize.text = String.ofList x.chars := by rw [Decimal.text, hx]
  refine ⟨x, htext ▸ hpercent, m.normalize.plain, ?_, ?_⟩
  · rw [← htext, Decimal.parse?_text]
  · rw [Decimal.toRat_plain, hnormal]
    ring

/-- Rates are written alike just if they have one value. -/
theorem percent_eq_iff (h : rate.fraction.isUnit = true) (h' : rate'.fraction.isUnit = true) :
    rate.percent = rate'.percent ↔ rate.fraction.toRat = rate'.fraction.toRat := by
  obtain ⟨m, hpercent, hvalue⟩ := exists_percent h
  obtain ⟨m', hpercent', hvalue'⟩ := exists_percent h'
  have hhundred : m.toRat = m'.toRat ↔ rate.fraction.toRat = rate'.fraction.toRat := by
    rw [hvalue, hvalue', mul_right_inj' (by norm_num)]
  rw [hpercent, hpercent', Except.ok.injEq, String.append_left_inj, ← hhundred,
    ← Decimal.normalize_eq_iff]
  constructor
  · intro htexts
    have hvalues := Decimal.toRat_eq_of_text_eq htexts
    rwa [Decimal.toRat_normalize, Decimal.toRat_normalize, ← Decimal.normalize_eq_iff] at hvalues
  · intro hnormal
    rw [hnormal]

/-- A rate that is accepted is written as the expansion of its hundredfold and a percent sign. The
digits are read back as a hundred times the rate, and two such rates have one percentage just if
they have one value, whatever their places. -/
theorem percent_verdict {fraction fraction' : Decimal} {rate rate' : DiscountRate}
    (h : ofFraction fraction = .ok rate) (h' : ofFraction fraction' = .ok rate') :
    (∃ x : Expansion (100 * fraction.toRat),
        rate.percent = .ok (String.ofList x.chars ++ "%") ∧
        ∃ d, Decimal.parse? (String.ofList x.chars) = some d ∧ d.toRat / 100 = fraction.toRat) ∧
      (rate.percent = rate'.percent ↔ fraction.toRat = fraction'.toRat) := by
  obtain ⟨hunit, rfl⟩ := Tariff.ofFraction_eq_ok_iff.1 h
  obtain ⟨hunit', rfl⟩ := Tariff.ofFraction_eq_ok_iff.1 h'
  exact ⟨exists_percent_expansion hunit, percent_eq_iff hunit hunit'⟩

/-- Eighty percent in as many places as there are, where the product with a hundred is too long for
them, and in four places. -/
theorem percent_verdict_eighty :
    ofFraction ⟨false, 8 * Numeral.tenPow 27, 28, by decide, by decide⟩ =
        .ok ⟨⟨false, 8 * Numeral.tenPow 27, 28, by decide, by decide⟩⟩ ∧
      ofFraction (.ofBasisPoints 8000) = .ok ⟨.ofBasisPoints 8000⟩ ∧
      percent ⟨⟨false, 8 * Numeral.tenPow 27, 28, by decide, by decide⟩⟩ =
        percent ⟨.ofBasisPoints 8000⟩ ∧
      percent ⟨.ofBasisPoints 8000⟩ = .ok "80%" := by
  have hlong : ofFraction ⟨false, 8 * Numeral.tenPow 27, 28, by decide, by decide⟩ =
      .ok ⟨⟨false, 8 * Numeral.tenPow 27, 28, by decide, by decide⟩⟩ := by
    rfl
  have hshort : ofFraction (.ofBasisPoints 8000) = .ok ⟨.ofBasisPoints 8000⟩ := by
    rfl
  refine ⟨hlong, hshort, (percent_verdict hlong hshort).2.2 ?_, by decide⟩
  rw [Decimal.toRat_eq_iff]
  decide

end DiscountRate

end MoveRating
