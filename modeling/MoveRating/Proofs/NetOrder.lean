import MoveRating.Proofs.NetRounding
import MoveRating.Proofs.NetTotal

/-!
# The order of net amounts

Figures of different sizes, and of rates with different places, are rounded on different grids. The
order of the figures carries over all the same, since the greater of two figures never keeps more
places than the smaller one.

* `Decimal.places_add_lostDigits_le` says so of the places, and `Decimal.reaches_of_le` of the whole
  numbers that are reached.
* `DiscountRate.natAbs_netOf_le_natAbs_netOf` : the greater the exact figure, the more is left.
* `DiscountRate.apply_order` : hence discounts keep the order of charges, turn round that of rates,
  and treat credits as charges.
-/

namespace MoveRating

/-! ### Values on different places -/

namespace Decimal

open Numeral (tenPow)

variable {n₁ n₂ p₁ p₂ m : Nat}

/-- Of two values, the greater one keeps no more places than the smaller one, if that loses any. -/
theorem places_add_lostDigits_le (hle : n₁ * tenPow p₂ ≤ n₂ * tenPow p₁)
    (hlost : lostDigits n₁ ≠ 0) : p₂ + lostDigits n₁ ≤ p₁ + lostDigits n₂ := by
  -- with one digit more, the smaller value would be too long
  obtain ⟨k, hk⟩ := Nat.exists_eq_succ_of_ne_zero hlost
  have hfits := lt_of_lostDigits n₂
  have hover : (2 * sizeLimit - 1) * tenPow k ≤ 2 * n₁ := le_of_lt_lostDigits (by omega)
  by_contra hlt
  have hten : tenPow p₁ * tenPow (lostDigits n₂) ≤ tenPow p₂ * tenPow k := by
    rw [← Numeral.tenPow_add, ← Numeral.tenPow_add]
    exact Numeral.tenPow_le (by omega)
  have hcycle : (2 * sizeLimit - 1) * (tenPow p₂ * tenPow k) <
      (2 * sizeLimit - 1) * (tenPow p₂ * tenPow k) :=
    calc (2 * sizeLimit - 1) * (tenPow p₂ * tenPow k)
        = (2 * sizeLimit - 1) * tenPow k * tenPow p₂ := by ring
      _ ≤ 2 * n₁ * tenPow p₂ := Nat.mul_le_mul_right _ hover
      _ = 2 * (n₁ * tenPow p₂) := Nat.mul_assoc _ _ _
      _ ≤ 2 * (n₂ * tenPow p₁) := Nat.mul_le_mul_left 2 hle
      _ = 2 * n₂ * tenPow p₁ := (Nat.mul_assoc _ _ _).symm
      _ < (2 * sizeLimit - 1) * tenPow (lostDigits n₂) * tenPow p₁ :=
        Nat.mul_lt_mul_of_pos_right hfits (Numeral.tenPow_pos p₁)
      _ = (2 * sizeLimit - 1) * (tenPow p₁ * tenPow (lostDigits n₂)) := by ring
      _ ≤ (2 * sizeLimit - 1) * (tenPow p₂ * tenPow k) := Nat.mul_le_mul_left _ hten
  exact Nat.lt_irrefl _ hcycle

/-- A value that misses a half by half a unit of its last place at most, and by less without places,
does not miss it: with places, the half is a whole number of units. -/
theorem reaches_of_le_add {n p u s : Nat} (hpos : 0 < u) (hs : s ≤ u) (hwhole : p = 0 → s < u)
    (h : (2 * m + 1) * tenPow p * u ≤ 2 * n * u + s) : (2 * m + 1) * tenPow p ≤ 2 * n := by
  cases p with
  | zero =>
    have hlt : (2 * m + 1) * tenPow 0 * u < (2 * n + 1) * u := by
      have := hwhole rfl
      rw [Nat.add_mul (2 * n)]
      omega
    have := Nat.lt_of_mul_lt_mul_right hlt
    omega
  | succ q =>
    have hle : (2 * m + 1) * tenPow (q + 1) * u ≤ (2 * n + 1) * u := by
      rw [Nat.add_mul (2 * n)]
      omega
    have hunits := Nat.le_of_mul_le_mul_right hle hpos
    rw [Numeral.tenPow_succ, ← Nat.mul_assoc] at hunits ⊢
    omega

/-- What a smaller value reaches by rounding, a greater one reaches too. -/
theorem reaches_of_le (hle : n₁ * tenPow p₂ ≤ n₂ * tenPow p₁)
    (hlost : ¬n₁ < sizeLimit → lostDigits n₁ < p₁)
    (h : (2 * m + 1) * tenPow p₁ ≤ 2 * n₁ + slack n₁) :
    (2 * m + 1) * tenPow p₂ ≤ 2 * n₂ + slack n₂ := by
  have hpos := Numeral.tenPow_pos p₁
  -- brought to the places of both
  have hboth : (2 * m + 1) * tenPow p₂ * tenPow p₁ ≤
      2 * n₂ * tenPow p₁ + slack n₁ * tenPow p₂ :=
    calc (2 * m + 1) * tenPow p₂ * tenPow p₁
        = (2 * m + 1) * tenPow p₁ * tenPow p₂ := by ring
      _ ≤ (2 * n₁ + slack n₁) * tenPow p₂ := Nat.mul_le_mul_right _ h
      _ = 2 * (n₁ * tenPow p₂) + slack n₁ * tenPow p₂ := by ring
      _ ≤ 2 * (n₂ * tenPow p₁) + slack n₁ * tenPow p₂ := by omega
      _ = 2 * n₂ * tenPow p₁ + slack n₁ * tenPow p₂ := by ring
  by_cases hfits : n₁ < sizeLimit
  · rw [slack_of_lt hfits, Nat.zero_mul, Nat.add_zero] at hboth
    have := Nat.le_of_mul_le_mul_right hboth hpos
    omega
  · have hkept := places_add_lostDigits_le hle (mt lostDigits_eq_zero_iff.1 hfits)
    rw [slack_of_not_lt hfits, ← Numeral.tenPow_add] at hboth
    by_cases hfits₂ : n₂ < sizeLimit
    · rw [lostDigits_eq_zero_iff.2 hfits₂] at hkept
      rw [slack_of_lt hfits₂]
      refine reaches_of_le_add hpos (Numeral.tenPow_le (by omega)) ?_ hboth
      rintro rfl
      exact Nat.pow_lt_pow_right (by decide) (hlost hfits)
    · have hslack : tenPow (lostDigits n₁ + p₂) ≤ tenPow (lostDigits n₂) * tenPow p₁ := by
        rw [← Numeral.tenPow_add]
        exact Numeral.tenPow_le (by omega)
      rw [slack_of_not_lt hfits₂]
      refine Nat.le_of_mul_le_mul_right (Nat.le_trans hboth ?_) hpos
      rw [Nat.add_mul]
      omega

end Decimal

/-! ### Exact figures and what is left of them -/

namespace DiscountRate

variable {r₁ r₂ rate : DiscountRate} {g₁ g₂ gross : Int}

theorem lostDigits_lt (h : rate.fraction.isUnit = true) (hg : Fits gross)
    (hlong : ¬rate.exactDigits gross < Decimal.sizeLimit) :
    Decimal.lostDigits (rate.exactDigits gross) < rate.fraction.places := by
  obtain ⟨net, hnet, -⟩ := exists_fit?_product h hg
  have hnine : 9 + Decimal.lostDigits (rate.exactDigits gross) ≤ rate.fraction.places :=
    Decimal.nine_add_lostDigits_le hnet rate.fraction.places_le (exactDigits_le h hg) hlong
  omega

/-- The greater the exact figure, the greater is what is left, on whatever places the figures are
rounded. -/
theorem natAbs_netOf_le_natAbs_netOf (h₁ : r₁.fraction.isUnit = true)
    (h₂ : r₂.fraction.isUnit = true) (hg₁ : Fits g₁) (hg₂ : Fits g₂)
    (hle : |r₁.exactNet g₁| ≤ |r₂.exactNet g₂|) :
    (r₁.netOf g₁).natAbs ≤ (r₂.netOf g₂).natAbs := by
  have hpos₁ := Decimal.tenPow_cast_pos r₁.fraction.places
  have hpos₂ := Decimal.tenPow_cast_pos r₂.fraction.places
  rw [abs_exactNet, abs_exactNet, div_le_div_iff₀ hpos₁ hpos₂] at hle
  refine le_of_forall_lt fun m hm => (lt_natAbs_netOf_iff h₂ hg₂).2 ?_
  exact Decimal.reaches_of_le (by exact_mod_cast hle) (lostDigits_lt h₁ hg₁)
    ((lt_natAbs_netOf_iff h₁ hg₁).1 hm)

theorem natAbs_netOf_mono (h : rate.fraction.isUnit = true) (hg₁ : Fits g₁) (hg₂ : Fits g₂)
    (hle : g₁.natAbs ≤ g₂.natAbs) : (rate.netOf g₁).natAbs ≤ (rate.netOf g₂).natAbs := by
  have hle' : |(g₁ : Rat)| ≤ |(g₂ : Rat)| := by
    rw [← Int.cast_abs, ← Int.cast_abs, ← Nat.cast_natAbs, ← Nat.cast_natAbs]
    exact_mod_cast hle
  refine natAbs_netOf_le_natAbs_netOf h h hg₁ hg₂ ?_
  unfold exactNet
  rw [abs_mul, abs_mul]
  exact mul_le_mul_of_nonneg_right hle' (abs_nonneg _)

/-- A greater charge does not leave less. -/
theorem netOf_mono (h : rate.fraction.isUnit = true) (hg₁ : Fits g₁) (hg₂ : Fits g₂)
    (hle : g₁ ≤ g₂) : rate.netOf g₁ ≤ rate.netOf g₂ := by
  rcases Int.le_total 0 g₁ with hnonneg | hnonpos
  · have hsize := natAbs_netOf_mono h hg₁ hg₂ (by omega)
    have := netOf_nonneg h hnonneg
    have := netOf_nonneg h (hnonneg.trans hle)
    omega
  · rcases Int.le_total 0 g₂ with hnonneg | hnonpos₂
    · exact (netOf_nonpos h hnonpos).trans (netOf_nonneg h hnonneg)
    · have hsize := natAbs_netOf_mono h hg₂ hg₁ (by omega)
      have := netOf_nonpos h hnonpos
      have := netOf_nonpos h hnonpos₂
      omega

/-- A credit is discounted as the charge of the same amount. -/
theorem netOf_neg (h : rate.fraction.isUnit = true) (hg : Fits gross) (hneg : Fits (-gross)) :
    rate.netOf (-gross) = -rate.netOf gross := by
  have hle := natAbs_netOf_mono h hneg hg (Int.natAbs_neg gross).le
  have hge := natAbs_netOf_mono h hg hneg (Int.natAbs_neg gross).ge
  rw [netOf_eq_sign_mul h, Nat.le_antisymm hle hge, Int.sign_neg, Int.neg_mul,
    ← netOf_eq_sign_mul h]

/-- A greater discount does not leave more of a charge. -/
theorem netOf_anti (h₁ : r₁.fraction.isUnit = true) (h₂ : r₂.fraction.isUnit = true)
    (hrate : r₁.fraction.toRat ≤ r₂.fraction.toRat) (hg : Fits gross) (hgross : 0 ≤ gross) :
    r₂.netOf gross ≤ r₁.netOf gross := by
  have hone := (Decimal.isUnit_iff_toRat.1 h₂).2
  have hsize : (r₂.netOf gross).natAbs ≤ (r₁.netOf gross).natAbs := by
    refine natAbs_netOf_le_natAbs_netOf h₂ h₁ hg hg ?_
    unfold exactNet
    rw [abs_mul, abs_mul, abs_of_nonneg (sub_nonneg.2 hone),
      abs_of_nonneg (sub_nonneg.2 (hrate.trans hone))]
    exact mul_le_mul_of_nonneg_left (sub_le_sub_left hrate 1) (abs_nonneg _)
  have := netOf_nonneg h₁ hgross
  have := netOf_nonneg h₂ hgross
  omega

/-! ### Net amounts -/

/-- A greater charge does not leave less, a greater discount does not leave more of a charge, and a
credit is discounted as the charge of the same amount. What is left lies between nothing and the
charge, so that the word keeps the rounded product as it is. -/
theorem apply_order :
    (∀ rate : DiscountRate, rate.InRange → ∀ g₁ g₂ : Cents, g₁.toInt ≤ g₂.toInt →
      ∃ n₁ n₂, rate.apply g₁ = .ok n₁ ∧ rate.apply g₂ = .ok n₂ ∧ n₁.toInt ≤ n₂.toInt) ∧
    (∀ r₁ r₂ : DiscountRate, r₁.InRange → r₂.InRange → r₁.fraction.toRat ≤ r₂.fraction.toRat →
      ∀ gross : Cents, 0 ≤ gross.toInt →
        ∃ n₁ n₂, r₁.apply gross = .ok n₁ ∧ r₂.apply gross = .ok n₂ ∧ n₂.toInt ≤ n₁.toInt) ∧
    (∀ rate : DiscountRate, rate.InRange → ∀ gross : Cents, gross.val ≠ Int64.minValue →
      ∃ net net', rate.apply gross = .ok net ∧ rate.apply ⟨-gross.val⟩ = .ok net' ∧
        net'.toInt = -net.toInt) ∧
    ∀ rate : DiscountRate, rate.InRange → ∀ gross : Cents, ∃ kept product net,
      rate.fraction.oneMinus? = some kept ∧
        (Decimal.ofWord gross.val).mul? kept = some product ∧ rate.apply gross = .ok net ∧
        net.toInt = product.nearestInt ∧ PartOf gross.toInt net.toInt := by
  refine ⟨?_, ?_, ?_, ?_⟩
  · intro rate hrange g₁ g₂ hle
    have hunit := inRange_iff.1 hrange
    obtain ⟨n₁, happly₁, hn₁⟩ := apply_eq_ok hunit g₁
    obtain ⟨n₂, happly₂, hn₂⟩ := apply_eq_ok hunit g₂
    refine ⟨n₁, n₂, happly₁, happly₂, ?_⟩
    rw [hn₁, hn₂]
    exact netOf_mono hunit g₁.fits_toInt g₂.fits_toInt hle
  · intro r₁ r₂ hrange₁ hrange₂ hrate gross hgross
    have hunit₁ := inRange_iff.1 hrange₁
    have hunit₂ := inRange_iff.1 hrange₂
    obtain ⟨n₁, happly₁, hn₁⟩ := apply_eq_ok hunit₁ gross
    obtain ⟨n₂, happly₂, hn₂⟩ := apply_eq_ok hunit₂ gross
    refine ⟨n₁, n₂, happly₁, happly₂, ?_⟩
    rw [hn₁, hn₂]
    exact netOf_anti hunit₁ hunit₂ hrate gross.fits_toInt hgross
  · intro rate hrange gross hmin
    have hunit := inRange_iff.1 hrange
    have hneg : (⟨-gross.val⟩ : Cents).toInt = -gross.toInt := toInt_neg_of_ne hmin
    obtain ⟨net, happly, hnet⟩ := apply_eq_ok hunit gross
    obtain ⟨net', happly', hnet'⟩ := apply_eq_ok hunit ⟨-gross.val⟩
    refine ⟨net, net', happly, happly', ?_⟩
    rw [hnet, hnet', hneg]
    exact netOf_neg hunit gross.fits_toInt (hneg ▸ Cents.fits_toInt _)
  · intro rate hrange gross
    have hunit := inRange_iff.1 hrange
    obtain ⟨kept, product, hkept, hproduct, hnearest⟩ := exists_mul? hunit gross
    obtain ⟨net, happly, hnet⟩ := apply_eq_ok hunit gross
    refine ⟨kept, product, net, hkept, hproduct, happly, hnet.trans hnearest.symm, ?_⟩
    rw [hnet]
    exact partOf_netOf hunit gross.toInt

/-- At the discount of an eighteenth, eight cents keep all places of the rate and nine do not. -/
theorem apply_order_eighteenth :
    eighteenth.InRange ∧ InRange ⟨.ofBasisPoints 555⟩ ∧
      (∃ n₁ n₂, eighteenth.apply ⟨8⟩ = .ok n₁ ∧ eighteenth.apply ⟨9⟩ = .ok n₂ ∧
        n₁.toInt ≤ n₂.toInt) ∧
      (∃ n₁ n₂, apply ⟨.ofBasisPoints 555⟩ ⟨9⟩ = .ok n₁ ∧ eighteenth.apply ⟨9⟩ = .ok n₂ ∧
        n₂.toInt ≤ n₁.toInt) ∧
      (∃ net net', eighteenth.apply ⟨9⟩ = .ok net ∧ eighteenth.apply ⟨-9⟩ = .ok net' ∧
        net'.toInt = -net.toInt) ∧
      ∃ net, eighteenth.apply ⟨-9⟩ = .ok net ∧ PartOf (-9) net.toInt := by
  have hrange : eighteenth.InRange := inRange_iff.2 (by decide)
  have hrange' : InRange ⟨.ofBasisPoints 555⟩ := inRange_iff.2 (by decide)
  have hrate : (Decimal.ofBasisPoints 555).toRat ≤ eighteenth.fraction.toRat := by
    unfold Decimal.toRat eighteenth
    norm_num [Decimal.coefficient, Decimal.ofBasisPoints, Numeral.tenPow,
      show UInt32.toNat 555 = 555 from rfl]
  obtain ⟨hmono, hanti, hneg, hpart⟩ := apply_order
  obtain ⟨kept, product, net, -, -, happly, -, hnet⟩ := hpart _ hrange ⟨-9⟩
  exact ⟨hrange, hrange', hmono _ hrange ⟨8⟩ ⟨9⟩ (by decide),
    hanti _ _ hrange' hrange hrate ⟨9⟩ (by decide), hneg _ hrange ⟨9⟩ (by decide),
    net, happly, hnet⟩

end DiscountRate

end MoveRating
