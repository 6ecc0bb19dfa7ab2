import MoveRating.Proofs.Deviation

/-!
# Normal decimals

A decimal is normal if it has no final zeros after the point, and no sign if it is zero. No number
is denoted by two normal decimals.

* `Decimal.toRat_eq_iff` : two decimals denote one number just if their coefficients agree over the
  places of both.
* `Decimal.isNormal_normalize` and `Decimal.toRat_normalize` : normalizing makes a decimal normal
  and keeps its value.
* `Decimal.IsNormal.eq_of_toRat_eq` : normal decimals of one value are the same, so that decimals
  are normalized alike just if they have one value (`Decimal.normalize_eq_iff`).
-/

namespace MoveRating

namespace Decimal

open Numeral (tenPow)

variable {d e : Decimal}

/-! ### Values -/

theorem toRat_eq_iff :
    d.toRat = e.toRat ↔ d.coefficient * tenPow e.places = e.coefficient * tenPow d.places := by
  unfold toRat
  rw [div_eq_div_iff (tenPow_cast_pos _).ne' (tenPow_cast_pos _).ne']
  norm_cast

theorem coefficient_neg_iff : d.coefficient < 0 ↔ d.negative = true ∧ d.magnitude ≠ 0 := by
  unfold coefficient
  split
  · next hneg => simp [hneg, Nat.pos_iff_ne_zero]
  · next hneg => simp [hneg]

/-! ### Stripped zeros -/

/-- The zeros that are taken off can be put back. -/
theorem stripZeros_mul_tenPow (m p : Nat) :
    (stripZeros m p).1 * tenPow (p - (stripZeros m p).2) = m := by
  induction p generalizing m with
  | zero => simp [stripZeros]
  | succ p ih =>
    unfold stripZeros
    split
    · next hzero =>
      rw [Nat.succ_sub (stripZeros_places_le (m / 10) p), Numeral.tenPow_succ, ← Nat.mul_assoc, ih]
      omega
    · simp

/-- No zero is left to be taken off. -/
theorem stripZeros_last (m p : Nat) :
    (stripZeros m p).2 = 0 ∨ (stripZeros m p).1 % 10 ≠ 0 := by
  induction p generalizing m with
  | zero => exact .inl rfl
  | succ p ih =>
    unfold stripZeros
    split
    · exact ih (m / 10)
    · next hlast => exact .inr hlast

/-! ### Normal decimals -/

/-- The last digit after the point is not zero, and a minus sign stands before a number only. -/
structure IsNormal (d : Decimal) : Prop where
  last : d.places = 0 ∨ d.magnitude % 10 ≠ 0
  sign : d.negative = true → d.magnitude ≠ 0

theorem coefficient_normalize (d : Decimal) :
    d.normalize.coefficient * tenPow (d.places - d.normalize.places) = d.coefficient := by
  have hstrip : ((stripZeros d.magnitude d.places).1 : Int) *
      tenPow (d.places - (stripZeros d.magnitude d.places).2) = d.magnitude := by
    exact_mod_cast stripZeros_mul_tenPow d.magnitude d.places
  change (if (d.negative && d.magnitude != 0) = true then _ else _) * _ = _
  unfold coefficient
  by_cases hneg : d.negative = true
  · by_cases hzero : d.magnitude = 0
    · rw [if_neg (by simp [hzero]), if_pos hneg]
      exact hstrip.trans (by rw [hzero]; rfl)
    · rw [if_pos (by simp [hneg, hzero]), if_pos hneg, Int.neg_mul]
      exact congrArg Neg.neg hstrip
  · rw [if_neg (by simp [hneg]), if_neg hneg]
    exact hstrip

theorem toRat_normalize (d : Decimal) : d.normalize.toRat = d.toRat := by
  have hplaces : d.normalize.places ≤ d.places := stripZeros_places_le _ _
  rw [toRat_eq_iff, ← coefficient_normalize d, ← Numeral.tenPow_sub_mul hplaces, Int.natCast_mul,
    Int.mul_assoc]

theorem isNormal_normalize (d : Decimal) : d.normalize.IsNormal where
  last := stripZeros_last _ _
  sign hneg hzero := by
    -- nothing but zeros would have been taken off a zero
    have hstrip := stripZeros_mul_tenPow d.magnitude d.places
    rw [show (stripZeros d.magnitude d.places).1 = 0 from hzero, Nat.zero_mul] at hstrip
    simp [normalize, ← hstrip] at hneg

/-- A decimal that ends in another digit than zero has no more places than any other of its
value. -/
theorem places_le_of_last (h : d.coefficient * tenPow e.places = e.coefficient * tenPow d.places)
    (hlast : d.places = 0 ∨ d.magnitude % 10 ≠ 0) : d.places ≤ e.places := by
  by_contra hlt
  have hsize : d.magnitude * tenPow e.places = e.magnitude * tenPow d.places := by
    have := congrArg Int.natAbs h
    rwa [Int.natAbs_mul, Int.natAbs_mul, natAbs_coefficient, natAbs_coefficient, Int.natAbs_natCast,
      Int.natAbs_natCast] at this
  -- the further places would be zeros
  obtain ⟨k, hk⟩ : ∃ k, d.places = k + 1 + e.places := ⟨d.places - e.places - 1, by omega⟩
  rw [hk, Numeral.tenPow_add, ← Nat.mul_assoc] at hsize
  have hmagnitude := Nat.eq_of_mul_eq_mul_right (Numeral.tenPow_pos _) hsize
  rw [Numeral.tenPow_succ, ← Nat.mul_assoc] at hmagnitude
  omega

theorem IsNormal.eq_of_toRat_eq (hd : d.IsNormal) (he : e.IsNormal) (h : d.toRat = e.toRat) :
    d = e := by
  rw [toRat_eq_iff] at h
  have hplaces : d.places = e.places :=
    Nat.le_antisymm (places_le_of_last h hd.last) (places_le_of_last h.symm he.last)
  have hcoefficient : d.coefficient = e.coefficient := by
    rw [hplaces] at h
    exact Int.eq_of_mul_eq_mul_right (by have := Numeral.tenPow_pos e.places; omega) h
  have hmagnitude : d.magnitude = e.magnitude := by
    rw [← natAbs_coefficient d, hcoefficient, natAbs_coefficient]
  have hnegative : d.negative = true ↔ e.negative = true := by
    have hsign := coefficient_neg_iff (d := d)
    rw [hcoefficient, coefficient_neg_iff, and_iff_left_of_imp hd.sign,
      and_iff_left_of_imp he.sign] at hsign
    exact hsign.symm
  obtain ⟨negative, magnitude, places, hsize, hfew⟩ := d
  obtain ⟨negative', magnitude', places', hsize', hfew'⟩ := e
  obtain rfl : negative = negative' := Bool.eq_iff_iff.2 hnegative
  obtain rfl : magnitude = magnitude' := hmagnitude
  obtain rfl : places = places' := hplaces
  rfl

theorem normalize_eq_iff : d.normalize = e.normalize ↔ d.toRat = e.toRat := by
  constructor
  · intro h
    rw [← toRat_normalize d, h, toRat_normalize]
  · intro h
    refine (isNormal_normalize d).eq_of_toRat_eq (isNormal_normalize e) ?_
    rw [toRat_normalize, toRat_normalize, h]

end Decimal

end MoveRating
