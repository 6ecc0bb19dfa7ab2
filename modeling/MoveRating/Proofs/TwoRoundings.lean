import MoveRating.Proofs.Deviation

/-!
# Two roundings in a row

Fitting rounds a coefficient to 96 bits, a half to the even neighbour, and `Decimal.nearestInt`
rounds what is left of it to a whole number, a half away from zero. A half is a number of the
coarser grid too, and an even one, so that the two roundings together are a single one with a lower
threshold.

* `Rounding.lt_halfUp_halfEven_iff` says so of quotients.
* `Decimal.lostDigits` counts the digits that fitting takes off (`Decimal.of_fit?`), and
  `Decimal.slack` is what one unit of the last digit that is kept amounts to.
* `Decimal.lt_natAbs_nearestInt_iff` : a whole number is reached from half a unit below it on, less
  half the slack.
-/

namespace MoveRating

/-! ### Rounded quotients -/

namespace Rounding

variable {n d e m : Nat}

/-- An even number is reached from half a unit below on: the half goes to it. -/
theorem le_halfEven_iff_of_even (hd : 0 < d) (hm : m % 2 = 0) :
    m ≤ halfEven n d ↔ 2 * (m * d) ≤ 2 * n + d := by
  have hn := Nat.div_add_mod n d
  have hr := Nat.mod_lt n hd
  unfold halfEven
  dsimp only
  generalize n / d = q at *
  generalize n % d = r at *
  rw [Nat.mul_comm] at hn
  rcases Nat.lt_trichotomy m (q + 1) with hlt | rfl | hgt
  · -- the quotient alone reaches it
    have hmq : m * d ≤ q * d := Nat.mul_le_mul_right d (Nat.le_of_lt_succ hlt)
    refine iff_of_true ?_ (by omega)
    split <;> omega
  · rw [Nat.add_mul, Nat.one_mul]
    split <;> omega
  · have hmq : (q + 2) * d ≤ m * d := Nat.mul_le_mul_right d hgt
    rw [Nat.add_mul] at hmq
    refine iff_of_false ?_ (by omega)
    split <;> omega

theorem lt_halfUp_iff (hd : 0 < d) : m < halfUp n d ↔ (2 * m + 1) * d ≤ 2 * n := by
  unfold halfUp
  have hmul : (m + 1) * (2 * d) = (2 * m + 1) * d + d := by ring
  rw [Nat.lt_iff_add_one_le, Nat.le_div_iff_mul_le (by omega), hmul]
  omega

/-- Rounded to even and then up, a quotient reaches a number from half a unit of the first rounding
below its half on. -/
theorem lt_halfUp_halfEven_iff (hd : 0 < d) (he : 0 < e) :
    m < halfUp (halfEven n d) (4 * e) ↔ (2 * m + 1) * (4 * e * d) ≤ 2 * n + d := by
  have hhalf : (2 * m + 1) * (4 * e) = 2 * ((2 * m + 1) * (2 * e)) := by ring
  have heven : (2 * m + 1) * (2 * e) % 2 = 0 := by
    rw [Nat.mul_left_comm]
    exact Nat.mul_mod_right 2 _
  rw [lt_halfUp_iff (by omega), hhalf, Nat.mul_le_mul_left_iff (by decide),
    le_halfEven_iff_of_even hd heven]
  have : 2 * ((2 * m + 1) * (2 * e) * d) = (2 * m + 1) * (4 * e * d) := by ring
  rw [this]

end Rounding

/-! ### Digits lost -/

namespace Decimal

open Numeral (tenPow)

variable {n p : Nat} {c : Int} {d : Decimal}

theorem exists_fits_without (n : Nat) : ∃ k, Rounding.halfEven n (tenPow k) < sizeLimit := by
  refine ⟨n, Nat.lt_of_le_of_lt (Rounding.halfEven_le (g := 1) (Numeral.tenPow_pos n) ?_)
    (by decide)⟩
  rw [Nat.one_mul]
  exact Nat.le_of_lt (Nat.lt_pow_self (by decide))

/-- The number of final digits that a magnitude loses to have 96 bits. -/
def lostDigits (n : Nat) : Nat := Nat.find (exists_fits_without n)

theorem lostDigits_eq_zero_iff : lostDigits n = 0 ↔ n < sizeLimit := by
  unfold lostDigits
  rw [Nat.find_eq_zero, Numeral.tenPow_zero, Rounding.halfEven_one]

theorem fits_without_iff {k : Nat} :
    Rounding.halfEven n (tenPow k) < sizeLimit ↔ 2 * n < (2 * sizeLimit - 1) * tenPow k := by
  rw [← Nat.not_le, Rounding.le_halfEven_iff_of_even (Numeral.tenPow_pos k) (by decide), Nat.not_le,
    Nat.sub_mul, Nat.mul_assoc, Nat.one_mul]
  omega

theorem lt_of_lostDigits (n : Nat) : 2 * n < (2 * sizeLimit - 1) * tenPow (lostDigits n) :=
  fits_without_iff.1 (Nat.find_spec (exists_fits_without n))

theorem le_of_lt_lostDigits {k : Nat} (h : k < lostDigits n) :
    (2 * sizeLimit - 1) * tenPow k ≤ 2 * n :=
  Nat.not_lt.1 (mt fits_without_iff.2 (Nat.find_min (exists_fits_without n) h))

theorem of_fit? (h : fit? c p = some d) (hp : p ≤ 28) :
    lostDigits c.natAbs ≤ p ∧ d.coefficient = dropDigits c (lostDigits c.natAbs) ∧
      d.places = p - lostDigits c.natAbs := by
  obtain ⟨k, hk, hcoefficient, hplaces, hminimal⟩ := exists_minimal_of_fit? h
  have hlost : lostDigits c.natAbs = k := by
    refine (Nat.find_eq_iff _).2 ⟨?_, fun j hj hfits => ?_⟩
    · rw [← natAbs_dropDigits, ← hcoefficient, natAbs_coefficient]
      exact d.size_lt
    · rw [← natAbs_dropDigits] at hfits
      obtain ⟨d', hd'⟩ := ofParts?_eq_some (p := p - j) hfits (by omega)
      rw [hminimal j hj] at hd'
      cases hd'
  rw [hlost]
  exact ⟨hk, hcoefficient, hplaces⟩

/-- A value that a word can hold is not robbed of all its places. -/
theorem nine_add_lostDigits_le (h : fit? c p = some d) (hp : p ≤ 28)
    (hc : c.natAbs ≤ 2 ^ 63 * tenPow p) (hlong : ¬c.natAbs < sizeLimit) :
    9 + lostDigits c.natAbs ≤ p := by
  obtain ⟨hle, -, hplaces⟩ := of_fit? h hp
  have hpos := mt lostDigits_eq_zero_iff.1 hlong
  have := nine_le_places h hp hc (by omega)
  omega

/-- One unit of the last digit that a magnitude keeps, if it loses any. -/
def slack (n : Nat) : Nat := if n < sizeLimit then 0 else tenPow (lostDigits n)

theorem slack_of_lt (h : n < sizeLimit) : slack n = 0 := if_pos h

theorem slack_of_not_lt (h : ¬n < sizeLimit) : slack n = tenPow (lostDigits n) := if_neg h

theorem slack_le (h : fit? c p = some d) (hp : p ≤ 28) : slack c.natAbs ≤ tenPow p := by
  unfold slack
  split
  · exact Nat.zero_le _
  · exact Numeral.tenPow_le (of_fit? h hp).1

/-- Fitting and rounding together reach a whole number from its half, less half the slack, on. -/
theorem lt_natAbs_nearestInt_iff (h : fit? c p = some d) (hp : p ≤ 28)
    (hc : c.natAbs ≤ 2 ^ 63 * tenPow p) {m : Nat} :
    m < d.nearestInt.natAbs ↔ (2 * m + 1) * tenPow p ≤ 2 * c.natAbs + slack c.natAbs := by
  obtain ⟨hlost, hcoefficient, hplaces⟩ := of_fit? h hp
  rw [natAbs_nearestInt, ← natAbs_coefficient, hcoefficient, natAbs_dropDigits]
  by_cases hfits : c.natAbs < sizeLimit
  · rw [slack_of_lt hfits, hplaces, lostDigits_eq_zero_iff.2 hfits, Numeral.tenPow_zero,
      Rounding.halfEven_one, Nat.sub_zero, Rounding.lt_halfUp_iff (Numeral.tenPow_pos p)]
    rfl
  · have hnine := nine_add_lostDigits_le h hp hc hfits
    -- half a unit is an even number of the digits that are kept
    have hfour : tenPow d.places = 4 * (25 * tenPow (d.places - 2)) := by
      rw [← Nat.mul_assoc, ← Nat.sub_add_cancel (show 2 ≤ d.places by omega), Numeral.tenPow_add,
        Nat.add_sub_cancel, Nat.mul_comm]
      rfl
    have hsplit : tenPow d.places * tenPow (lostDigits c.natAbs) = tenPow p := by
      rw [← Numeral.tenPow_add, hplaces, Nat.sub_add_cancel hlost]
    rw [slack_of_not_lt hfits, hfour, Rounding.lt_halfUp_halfEven_iff (Numeral.tenPow_pos _)
      (Nat.mul_pos (by decide) (Numeral.tenPow_pos _)), ← hfour, hsplit]

end Decimal

end MoveRating
