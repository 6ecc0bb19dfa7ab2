import Mathlib.Algebra.Order.Field.Rat
import Mathlib.Tactic.FieldSimp
import Mathlib.Tactic.Linarith
import Mathlib.Tactic.NormNum
import Mathlib.Tactic.Positivity
import Mathlib.Tactic.Ring
import MoveRating.Proofs.Discount

/-!
# How far rounding leads

What a discount leaves of a charge is rounded twice: the product is fitted to 96 bits, and then
rounded to whole cents. This file measures both steps against the exact rational numbers.

* `Decimal.toRat` is the number that a decimal denotes.
* `Decimal.nine_le_places` : a value below the 63rd power of two that does not keep all its places
  keeps nine of them at least, so that fitting changes it by less than a billionth
  (`Decimal.abs_toRat_fit?_sub_le`).
* `DiscountRate.exactNet` is the exact figure, and `DiscountRate.exactDigits` are its digits.
* `DiscountRate.abs_netOf_sub_le` : what is left is half a cent and half a billionth from the exact
  figure at most. Hence nothing is taken off at the rate zero (`DiscountRate.netOf_of_eq_zero`),
  and all at the rate one (`DiscountRate.netOf_of_eq_one`).
-/

namespace MoveRating

/-! ### Rounded quotients -/

namespace Rounding

variable {n d : Nat}

theorem abs_halfEven_sub_le (hd : 0 < d) : |(halfEven n d : Rat) - n / d| ≤ 1 / 2 := by
  have hd' : (0 : Rat) < d := by exact_mod_cast hd
  have hdiv : (n : Rat) / d = (n / d : Nat) + (n % d : Nat) / d := by
    have hn : (d : Rat) * (n / d : Nat) + (n % d : Nat) = n := by exact_mod_cast Nat.div_add_mod n d
    rw [← hn]
    field_simp
  have hpos : (0 : Rat) ≤ (n % d : Nat) / d := by positivity
  rw [hdiv]
  unfold halfEven
  dsimp only
  split
  · next hup =>
    -- the rest is at least half the divisor, and below it
    have hhalf : (1 : Rat) / 2 ≤ (n % d : Nat) / d := by
      have : (d : Rat) ≤ 2 * (n % d : Nat) := by exact_mod_cast (by omega : d ≤ 2 * (n % d))
      rw [div_le_div_iff₀ two_pos hd']
      linarith
    have hone : ((n % d : Nat) : Rat) / d ≤ 1 := by
      rw [div_le_one hd']
      exact_mod_cast Nat.le_of_lt (Nat.mod_lt n hd)
    push_cast at hhalf hone ⊢
    rw [abs_le]
    constructor <;> linarith
  · next hdown =>
    have hhalf : ((n % d : Nat) : Rat) / d ≤ 1 / 2 := by
      have : 2 * ((n % d : Nat) : Rat) ≤ d := by exact_mod_cast (by omega : 2 * (n % d) ≤ d)
      rw [div_le_div_iff₀ hd' two_pos]
      linarith
    rw [abs_le]
    constructor <;> linarith

theorem abs_halfUp_sub_le (hd : 0 < d) : |(halfUp n d : Rat) - n / d| ≤ 1 / 2 := by
  have hd' : (0 : Rat) < d := by exact_mod_cast hd
  have hle : halfUp n d * (2 * d) ≤ 2 * n + d := Nat.div_mul_le_self _ _
  have hlt : 2 * n + d < (halfUp n d + 1) * (2 * d) := by
    have := Nat.lt_div_mul_add (show 0 < 2 * d by omega) (a := 2 * n + d)
    rw [Nat.add_mul, Nat.one_mul]
    exact this
  have hle' : (halfUp n d : Rat) * (2 * d) ≤ 2 * n + d := by exact_mod_cast hle
  have hlt' : (2 * n + d : Rat) < (halfUp n d + 1) * (2 * d) := by exact_mod_cast hlt
  rw [abs_le]
  constructor
  · have : (n : Rat) / d ≤ halfUp n d + 1 / 2 := by
      rw [div_le_iff₀ hd']
      linarith
    linarith
  · have : (halfUp n d : Rat) - 1 / 2 ≤ n / d := by
      rw [le_div_iff₀ hd']
      linarith
    linarith

end Rounding

/-- A number and its magnitude are the same distance away from a number and magnitude of the same
sign. -/
theorem abs_signed_sub {negative : Prop} [Decidable negative] (a b : Rat) :
    |(if negative then -a else a) - (if negative then -b else b)| = |a - b| := by
  split
  · rw [← abs_neg]
    congr 1
    ring
  · rfl

/-! ### The number that a decimal denotes -/

namespace Decimal

open Numeral (tenPow)

/-- The number that a decimal denotes. -/
def toRat (d : Decimal) : Rat := d.coefficient / tenPow d.places

theorem tenPow_cast_pos (n : Nat) : (0 : Rat) < tenPow n := by exact_mod_cast Numeral.tenPow_pos n

theorem isUnit_iff_toRat {d : Decimal} : d.isUnit = true ↔ 0 ≤ d.toRat ∧ d.toRat ≤ 1 := by
  have hpos := tenPow_cast_pos d.places
  unfold toRat
  rw [isUnit_iff, le_div_iff₀ hpos, zero_mul, div_le_one hpos]
  norm_cast

theorem abs_dropDigits_sub_le (c : Int) (k : Nat) :
    |(dropDigits c k : Rat) - c / tenPow k| ≤ 1 / 2 := by
  have hsize := Rounding.abs_halfEven_sub_le (n := c.natAbs) (Numeral.tenPow_pos k)
  have hc : (c : Rat) / tenPow k =
      if c < 0 then -((c.natAbs : Rat) / tenPow k) else (c.natAbs : Rat) / tenPow k := by
    obtain ⟨m, hm⟩ : ∃ m : Nat, c.natAbs = m := ⟨_, rfl⟩
    rw [hm]
    split
    · obtain rfl : c = -(m : Int) := by omega
      rw [Int.cast_neg, Int.cast_natCast, neg_div]
    · obtain rfl : c = (m : Int) := by omega
      rw [Int.cast_natCast]
  have hdrop : (dropDigits c k : Rat) =
      if c < 0 then -(Rounding.halfEven c.natAbs (tenPow k) : Rat)
      else (Rounding.halfEven c.natAbs (tenPow k) : Rat) := by
    unfold dropDigits
    split <;> simp
  rw [hc, hdrop, abs_signed_sub]
  exact hsize

theorem abs_nearestInt_sub_le (d : Decimal) : |(d.nearestInt : Rat) - d.toRat| ≤ 1 / 2 := by
  have hsize := Rounding.abs_halfUp_sub_le (n := d.magnitude) (Numeral.tenPow_pos d.places)
  have hd : d.toRat = if d.negative then -((d.magnitude : Rat) / tenPow d.places)
      else (d.magnitude : Rat) / tenPow d.places := by
    unfold toRat coefficient
    split <;> simp [neg_div]
  have hnearest : (d.nearestInt : Rat) =
      if d.negative then -(Rounding.halfUp d.magnitude (tenPow d.places) : Rat)
      else (Rounding.halfUp d.magnitude (tenPow d.places) : Rat) := by
    unfold nearestInt
    split <;> simp
  rw [hd, hnearest, abs_signed_sub]
  exact hsize

/-! ### The error of fitting -/

variable {c : Int} {p : Nat} {d : Decimal}

/-- Fitting drops no more digits than it has to. -/
theorem exists_minimal_of_fit? (h : fit? c p = some d) :
    ∃ k ≤ p, d.coefficient = dropDigits c k ∧ d.places = p - k ∧
      ∀ j < k, ofParts? (dropDigits c j) (p - j) = none := by
  obtain ⟨before, k, after, hrange, hk, hbefore⟩ := List.findSome?_eq_some_iff.1 h
  have hget (i : Nat) (hi : i ≤ p) : (before ++ k :: after)[i]? = some i := by
    rw [← hrange]
    simp [Nat.lt_succ_of_le hi]
  have hlength : before.length + (after.length + 1) = p + 1 := by
    have := congrArg List.length hrange
    simpa using this.symm
  have hkth : k = before.length := by
    have := hget before.length (by omega)
    simpa using this
  obtain ⟨hcoefficient, hplaces⟩ := coefficient_of_ofParts? hk
  refine ⟨k, by omega, hcoefficient, hplaces, ?_⟩
  intro j hj
  have hmem : j ∈ before := by
    have hj' := hget j (by omega)
    rw [List.getElem?_append_left (by omega)] at hj'
    exact List.mem_of_getElem? hj'
  exact hbefore j hmem

/-- What does not keep all its places keeps as many as it can. -/
theorem nine_le_places (h : fit? c p = some d) (hp : p ≤ 28) (hc : c.natAbs ≤ 2 ^ 63 * tenPow p)
    (hlost : d.places ≠ p) : 9 ≤ d.places := by
  obtain ⟨k, hk, -, hplaces, hminimal⟩ := exists_minimal_of_fit? h
  have hkpos : 0 < k := by omega
  -- with one digit more the coefficient would be too large
  have hnone := hminimal (k - 1) (by omega)
  have hlarge : sizeLimit ≤ (dropDigits c (k - 1)).natAbs := by
    by_contra hsmall
    obtain ⟨d', hd'⟩ := ofParts?_eq_some (p := p - (k - 1)) (Nat.lt_of_not_le hsmall) (by omega)
    rw [hnone] at hd'
    cases hd'
  have hsmall := natAbs_dropDigits_le (k := k - 1) (by omega) hc
  by_contra hfew
  have hten : tenPow (p - (k - 1)) ≤ tenPow 9 := Numeral.tenPow_le (by omega)
  have hlimit : sizeLimit ≤ 2 ^ 63 * tenPow 9 :=
    Nat.le_trans (Nat.le_trans hlarge hsmall) (Nat.mul_le_mul_left _ hten)
  exact absurd hlimit (by decide)

/-- Fitting a value that a word can hold changes it by half a billionth at most. -/
theorem abs_toRat_fit?_sub_le (h : fit? c p = some d) (hp : p ≤ 28)
    (hc : c.natAbs ≤ 2 ^ 63 * tenPow p) :
    |d.toRat - c / tenPow p| ≤ 1 / (2 * 10 ^ 9) := by
  obtain ⟨k, hk, hcoefficient, hplaces⟩ := exists_of_fit? h
  by_cases hkept : d.places = p
  · have hk0 : k = 0 := by omega
    subst hk0
    rw [dropDigits_zero] at hcoefficient
    unfold toRat
    rw [hcoefficient, hkept, sub_self, abs_zero]
    positivity
  · have hnine := nine_le_places h hp hc hkept
    have hpos := tenPow_cast_pos d.places
    have hsplit : (tenPow p : Rat) = tenPow k * tenPow d.places := by
      have : tenPow p = tenPow k * tenPow d.places := by
        rw [hplaces, ← Numeral.tenPow_add, Nat.add_sub_cancel' hk]
      exact_mod_cast this
    have hlarge : (10 ^ 9 : Rat) ≤ tenPow d.places := by
      have : tenPow 9 ≤ tenPow d.places := Numeral.tenPow_le hnine
      exact_mod_cast this
    have hdrop := abs_dropDigits_sub_le c k
    calc |d.toRat - c / tenPow p|
        = |((dropDigits c k : Rat) - c / tenPow k) / tenPow d.places| := by
          unfold toRat
          rw [hcoefficient, hsplit, ← div_div, sub_div]
      _ = |(dropDigits c k : Rat) - c / tenPow k| / tenPow d.places := by
          rw [abs_div, abs_of_pos hpos]
      _ ≤ (1 / 2) / 10 ^ 9 := div_le_div₀ (by norm_num) hdrop (by norm_num) hlarge
      _ = 1 / (2 * 10 ^ 9) := by norm_num

end Decimal

/-! ### The error of a discount -/

namespace DiscountRate

open Decimal

variable {rate : DiscountRate}

/-- The rate takes off a part of a charge, between nothing and all of it. -/
def InRange (rate : DiscountRate) : Prop := 0 ≤ rate.fraction.toRat ∧ rate.fraction.toRat ≤ 1

theorem inRange_iff : rate.InRange ↔ rate.fraction.isUnit = true := Decimal.isUnit_iff_toRat.symm

/-- The part of a charge that is kept, over the places of the rate. -/
theorem keptCoefficient_div (d : Decimal) :
    (d.keptCoefficient : Rat) / Numeral.tenPow d.places = 1 - d.toRat := by
  have hpos := tenPow_cast_pos d.places
  unfold Decimal.keptCoefficient Decimal.toRat
  push_cast
  field_simp

/-- What the discount leaves of a charge in exact numbers. -/
def exactNet (rate : DiscountRate) (gross : Int) : Rat := gross * (1 - rate.fraction.toRat)

/-- The digits of the exact figure, without its sign and point. -/
def exactDigits (rate : DiscountRate) (gross : Int) : Nat :=
  (gross * rate.fraction.keptCoefficient).natAbs

theorem exactNet_eq {gross : Int} : rate.exactNet gross =
    ((gross * rate.fraction.keptCoefficient : Int) : Rat) /
      Numeral.tenPow rate.fraction.places := by
  unfold exactNet
  rw [← keptCoefficient_div, Int.cast_mul, mul_div_assoc]

theorem natAbs_le_of_fits {n : Int} (h : Fits n) : n.natAbs ≤ 2 ^ 63 := by
  unfold Fits at h
  rw [Int64.toInt_minValue, Int64.toInt_maxValue] at h
  omega

theorem exactDigits_le (h : rate.fraction.isUnit = true) {gross : Int} (hg : Fits gross) :
    rate.exactDigits gross ≤ 2 ^ 63 * Numeral.tenPow rate.fraction.places :=
  Nat.le_trans (natAbs_product_le h gross) (Nat.mul_le_mul_right _ (natAbs_le_of_fits hg))

/-- What a discount leaves of a charge is half a cent and half a billionth off at most. -/
theorem abs_netOf_sub_le (h : rate.fraction.isUnit = true) {gross : Int} (hg : Fits gross) :
    |(rate.netOf gross : Rat) - gross * (1 - rate.fraction.toRat)| ≤ 1 / 2 + 1 / (2 * 10 ^ 9) := by
  change |(rate.netOf gross : Rat) - rate.exactNet gross| ≤ _
  obtain ⟨net, hnet, hnetOf⟩ := exists_fit?_product h hg
  have hfit := abs_toRat_fit?_sub_le hnet rate.fraction.places_le (exactDigits_le h hg)
  have hround := abs_nearestInt_sub_le net
  rw [← exactNet_eq] at hfit
  rw [hnetOf]
  calc |(net.nearestInt : Rat) - rate.exactNet gross|
      ≤ |(net.nearestInt : Rat) - net.toRat| + |net.toRat - rate.exactNet gross| :=
        abs_sub_le _ _ _
    _ ≤ 1 / 2 + 1 / (2 * 10 ^ 9) := add_le_add hround hfit

/-- Where the exact figure is whole, nothing is rounded. -/
theorem netOf_eq_of_exact (h : rate.fraction.isUnit = true) {gross n : Int} (hg : Fits gross)
    (hn : (gross : Rat) * (1 - rate.fraction.toRat) = n) : rate.netOf gross = n := by
  have herror := abs_netOf_sub_le h hg
  rw [hn] at herror
  -- two whole numbers less than one apart
  have hone : |((rate.netOf gross - n : Int) : Rat)| < 1 := by
    push_cast
    exact lt_of_le_of_lt herror (by norm_num)
  have hzero : |rate.netOf gross - n| < 1 := by exact_mod_cast hone
  have := Int.abs_lt_one_iff.1 hzero
  omega

theorem netOf_of_eq_zero (h : rate.fraction.isUnit = true) {gross : Int} (hg : Fits gross)
    (hrate : rate.fraction.toRat = 0) : rate.netOf gross = gross :=
  netOf_eq_of_exact h hg (by rw [hrate]; ring)

theorem netOf_of_eq_one (h : rate.fraction.isUnit = true) {gross : Int} (hg : Fits gross)
    (hrate : rate.fraction.toRat = 1) : rate.netOf gross = 0 :=
  netOf_eq_of_exact h hg (by rw [hrate]; simp)

end DiscountRate

end MoveRating
