import MoveRating.Decimal.Basic

/-!
# Fitted decimals

What rounding and fitting do to a coefficient.

* `Rounding.halfEven_le` and `Rounding.halfUp_le_of_le_mul`: a quotient that is not above a whole
  number is not rounded above it.
* `Decimal.fit?_eq_ofParts?`: a coefficient that is small enough keeps all its places.
* `Decimal.isSome_fit?`: a value below the limit of coefficients is fitted.
* `Decimal.natAbs_nearestInt_le`: fitting and then rounding to a whole number does not lead above a
  whole number either, and keeps the sign (`Decimal.nearestInt_nonneg_of_fit?`).
-/

namespace MoveRating

namespace Rounding

theorem halfEven_le {n g d : Nat} (hd : 0 < d) (h : n ≤ g * d) : halfEven n d ≤ g := by
  have hdiv := Nat.div_add_mod n d
  have hmod := Nat.mod_lt n hd
  unfold halfEven
  by_cases hq : n / d = g
  · -- the quotient is exact
    have hr : n % d = 0 := by
      rw [hq, Nat.mul_comm] at hdiv
      omega
    simp only [hr, hq]
    split
    · omega
    · exact Nat.le_refl g
  · have hlt : n / d < g := Nat.lt_of_le_of_ne (Nat.div_le_of_le_mul (by rwa [Nat.mul_comm])) hq
    dsimp only
    split
    · exact hlt
    · exact Nat.le_of_lt hlt

theorem halfUp_le_of_le_mul {n g d : Nat} (hd : 0 < d) (h : n ≤ g * d) : halfUp n d ≤ g := by
  refine Nat.le_of_lt_succ (Nat.div_lt_of_lt_mul ?_)
  have hg : 2 * d * (g + 1) = 2 * (g * d) + 2 * d := by
    rw [Nat.mul_add, Nat.mul_one, Nat.mul_assoc, Nat.mul_comm d g]
  rw [Nat.succ_eq_add_one, hg]
  omega

end Rounding

namespace Numeral

theorem tenPow_add (m n : Nat) : tenPow (m + n) = tenPow m * tenPow n := Nat.pow_add 10 m n

theorem tenPow_sub_mul {k n : Nat} (h : k ≤ n) : tenPow (n - k) * tenPow k = tenPow n := by
  rw [← tenPow_add, Nat.sub_add_cancel h]

theorem tenPow_le {m n : Nat} (h : m ≤ n) : tenPow m ≤ tenPow n :=
  Nat.pow_le_pow_right (by decide) h

end Numeral

namespace Decimal

open Numeral (tenPow)

@[simp] theorem natAbs_coefficient (d : Decimal) : d.coefficient.natAbs = d.magnitude := by
  unfold coefficient
  split
  · exact Int.natAbs_neg _
  · rfl

@[simp] theorem coefficient_ofWord (w : Int64) : (ofWord w).coefficient = w.toInt := by
  change (if decide (w.toInt < 0) = true then -(w.toInt.natAbs : Int) else w.toInt.natAbs) = _
  by_cases hw : w.toInt < 0
  · rw [if_pos (decide_eq_true hw)]
    omega
  · rw [if_neg (by simp [hw])]
    omega

theorem ofParts?_eq_some {c : Int} {p : Nat} (hc : c.natAbs < sizeLimit) (hp : p ≤ 28) :
    ∃ d, ofParts? c p = some d := by
  unfold ofParts?
  rw [dif_pos ⟨hc, hp⟩]
  exact ⟨_, rfl⟩

/-! ### Dropped digits -/

theorem natAbs_dropDigits (c : Int) (k : Nat) :
    (dropDigits c k).natAbs = Rounding.halfEven c.natAbs (tenPow k) := by
  unfold dropDigits
  dsimp only
  split
  · exact Int.natAbs_neg _
  · rfl

@[simp] theorem dropDigits_zero (c : Int) : dropDigits c 0 = c := by
  unfold dropDigits
  simp only [Numeral.tenPow_zero, Rounding.halfEven_one]
  split
  · omega
  · omega

theorem dropDigits_nonneg {c : Int} (h : 0 ≤ c) (k : Nat) : 0 ≤ dropDigits c k := by
  unfold dropDigits
  dsimp only
  rw [if_neg (by omega)]
  omega

theorem dropDigits_nonpos {c : Int} (h : c ≤ 0) (k : Nat) : dropDigits c k ≤ 0 := by
  by_cases hc : c = 0
  · subst hc
    have hzero : Rounding.halfEven 0 (tenPow k) ≤ 0 :=
      Rounding.halfEven_le (Numeral.tenPow_pos k) (Nat.zero_le _)
    have habs := natAbs_dropDigits 0 k
    simp only [Int.natAbs_zero] at habs
    omega
  · unfold dropDigits
    dsimp only
    rw [if_pos (by omega)]
    omega

/-- A value below `g` is below `g` without its last digits. -/
theorem natAbs_dropDigits_le {c : Int} {g k p : Nat} (hk : k ≤ p) (h : c.natAbs ≤ g * tenPow p) :
    (dropDigits c k).natAbs ≤ g * tenPow (p - k) := by
  rw [natAbs_dropDigits]
  refine Rounding.halfEven_le (Numeral.tenPow_pos k) ?_
  rwa [Nat.mul_assoc, ← Numeral.tenPow_add, Nat.sub_add_cancel hk]

/-! ### Fitting -/

/-- Fitting drops some of the places and leaves the rest. -/
theorem exists_of_fit? {c : Int} {p : Nat} {d : Decimal} (h : fit? c p = some d) :
    ∃ k ≤ p, d.coefficient = dropDigits c k ∧ d.places = p - k := by
  obtain ⟨k, hk, hd⟩ := List.exists_of_findSome?_eq_some h
  have hk' := List.mem_range.1 hk
  exact ⟨k, by omega, coefficient_of_ofParts? hd⟩

theorem fit?_eq_ofParts? {c : Int} {p : Nat} (hc : c.natAbs < sizeLimit) (hp : p ≤ 28) :
    fit? c p = ofParts? c p := by
  obtain ⟨d, hd⟩ := ofParts?_eq_some hc hp
  unfold fit?
  rw [List.range_succ_eq_map, List.findSome?_cons, dropDigits_zero, Nat.sub_zero, hd]

theorem isSome_fit? {c : Int} {g p : Nat} (hg : g < sizeLimit) (h : c.natAbs ≤ g * tenPow p) :
    ∃ d, fit? c p = some d := by
  have hall : (dropDigits c p).natAbs ≤ g := by
    have := natAbs_dropDigits_le (Nat.le_refl p) h
    rwa [Nat.sub_self, Numeral.tenPow_zero, Nat.mul_one] at this
  -- at the latest, all places are dropped
  obtain ⟨d, hd⟩ := ofParts?_eq_some (p := p - p) (Nat.lt_of_le_of_lt hall hg) (by omega)
  have hsome : (fit? c p).isSome := by
    unfold fit?
    rw [List.isSome_findSome?, List.any_eq_true]
    refine ⟨p, List.mem_range.2 (Nat.lt_succ_self p), ?_⟩
    rw [hd]
    rfl
  exact Option.isSome_iff_exists.1 hsome

/-! ### Rounding to a whole number -/

theorem natAbs_nearestInt (d : Decimal) :
    d.nearestInt.natAbs = Rounding.halfUp d.magnitude (tenPow d.places) := by
  unfold nearestInt
  dsimp only
  split
  · exact Int.natAbs_neg _
  · rfl

theorem nearestInt_nonneg {d : Decimal} (h : 0 ≤ d.coefficient) : 0 ≤ d.nearestInt := by
  have habs := natAbs_nearestInt d
  unfold nearestInt
  dsimp only
  split
  · next hneg =>
    -- a zero may have a minus sign
    have hzero : d.magnitude = 0 := by
      unfold coefficient at h
      rw [if_pos hneg] at h
      omega
    have hle : Rounding.halfUp d.magnitude (tenPow d.places) ≤ 0 :=
      Rounding.halfUp_le_of_le_mul (Numeral.tenPow_pos _) (by omega)
    omega
  · omega

theorem nearestInt_nonpos {d : Decimal} (h : d.coefficient ≤ 0) : d.nearestInt ≤ 0 := by
  unfold nearestInt
  dsimp only
  split
  · omega
  · next hneg =>
    have hzero : d.magnitude = 0 := by
      unfold coefficient at h
      rw [if_neg hneg] at h
      omega
    have hle : Rounding.halfUp d.magnitude (tenPow d.places) ≤ 0 :=
      Rounding.halfUp_le_of_le_mul (Numeral.tenPow_pos _) (by omega)
    omega

/-- Fitting and then rounding does not lead above a whole number. -/
theorem natAbs_nearestInt_le {c : Int} {g p : Nat} {d : Decimal} (hd : fit? c p = some d)
    (h : c.natAbs ≤ g * tenPow p) : d.nearestInt.natAbs ≤ g := by
  obtain ⟨k, hk, hcoefficient, hplaces⟩ := exists_of_fit? hd
  rw [natAbs_nearestInt, hplaces, ← natAbs_coefficient, hcoefficient]
  exact Rounding.halfUp_le_of_le_mul (Numeral.tenPow_pos _) (natAbs_dropDigits_le hk h)

theorem nearestInt_nonneg_of_fit? {c : Int} {p : Nat} {d : Decimal} (hd : fit? c p = some d)
    (h : 0 ≤ c) : 0 ≤ d.nearestInt := by
  obtain ⟨k, -, hcoefficient, -⟩ := exists_of_fit? hd
  exact nearestInt_nonneg (hcoefficient ▸ dropDigits_nonneg h k)

theorem nearestInt_nonpos_of_fit? {c : Int} {p : Nat} {d : Decimal} (hd : fit? c p = some d)
    (h : c ≤ 0) : d.nearestInt ≤ 0 := by
  obtain ⟨k, -, hcoefficient, -⟩ := exists_of_fit? hd
  exact nearestInt_nonpos (hcoefficient ▸ dropDigits_nonpos h k)

end Decimal

end MoveRating
