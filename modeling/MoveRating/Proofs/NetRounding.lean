import Mathlib.Algebra.Order.Round
import Mathlib.Data.Rat.Floor
import MoveRating.Proofs.Lookup
import MoveRating.Proofs.TwoRoundings

/-!
# How often a net amount is rounded

What a discount leaves of a charge is the exact figure `DiscountRate.exactNet`, rounded to whole
cents with a half cent away from zero. The figure is fitted to a decimal before, and this can be
told from the result in one case only.

* `Rounding.awayFromZero` rounds a rational number once.
* `DiscountRate.RaisedToHalf` are the figures that are too long for a decimal and so close below a
  half cent that they are fitted to it.
* `DiscountRate.netOf_cases` : those go one cent further, and all others are rounded once
  (`DiscountRate.apply_rounding`). There are such figures: `exists_apply_ne_awayFromZero`.
* `DiscountRate.apply_accuracy` : figures whose digits fit a decimal are rounded once, among them
  all at a discount in basis points.
-/

namespace MoveRating

/-! ### Rounding a rational number -/

namespace Rounding

/-- The whole number nearest to a rational number; a half goes away from zero. -/
def awayFromZero (x : Rat) : Int := if x < 0 then -round (-x) else round x

theorem round_div (n : Nat) {d : Nat} (hd : 0 < d) : round ((n : Rat) / d) = halfUp n d := by
  have hd' : (0 : Rat) < d := by exact_mod_cast hd
  have hquotient : (n : Rat) / d + 1 / 2 = ((2 * n + d : Nat) : Rat) / (2 * d : Nat) := by
    push_cast
    field_simp
  rw [round_eq, hquotient, Rat.floor_natCast_div_natCast]
  rfl

/-- The quotient of an integer. -/
theorem awayFromZero_div (c : Int) {d : Nat} (hd : 0 < d) :
    awayFromZero ((c : Rat) / d) = c.sign * halfUp c.natAbs d := by
  have hd' : (0 : Rat) < d := by exact_mod_cast hd
  unfold awayFromZero
  rcases Int.lt_trichotomy c 0 with hneg | rfl | hpos
  · have habs : -((c : Rat) / d) = (c.natAbs : Rat) / d := by
      rw [← neg_div, ← Int.cast_neg, ← Int.ofNat_natAbs_of_nonpos hneg.le, Int.cast_natCast]
    have hlt : (c : Rat) / d < 0 := div_neg_of_neg_of_pos (by exact_mod_cast hneg) hd'
    rw [if_pos hlt, habs, round_div _ hd, Int.sign_eq_neg_one_of_neg hneg, Int.neg_one_mul]
  · simp [round_zero]
  · have habs : (c : Rat) / d = (c.natAbs : Rat) / d := by
      rw [← Int.cast_natCast c.natAbs, Int.natAbs_of_nonneg hpos.le]
    have hnot : ¬(c : Rat) / d < 0 := not_lt.2 (div_nonneg (by exact_mod_cast hpos.le) hd'.le)
    rw [if_neg hnot, habs, round_div _ hd, Int.sign_eq_one_of_pos hpos, Int.one_mul]

end Rounding

/-! ### What a discount leaves -/

namespace DiscountRate

open Numeral (tenPow)

variable {rate : DiscountRate} {gross : Int}

theorem cast_exactDigits (h : rate.fraction.isUnit = true) : (rate.exactDigits gross : Int) =
    gross.natAbs * (10 ^ rate.fraction.places - rate.fraction.coefficient) := by
  have hten : ((tenPow rate.fraction.places : Nat) : Int) = 10 ^ rate.fraction.places :=
    Nat.cast_pow 10 _
  rw [← hten]
  unfold exactDigits
  rw [Int.natAbs_mul, Nat.cast_mul, Int.natAbs_of_nonneg (Decimal.keptCoefficient_nonneg h)]
  rfl

/-- The exact figure lies below a half cent, but no more than half a unit below it of the last place
that fitting keeps. -/
def RaisedToHalf (rate : DiscountRate) (gross : Int) : Prop :=
  ∃ m : Nat, |rate.exactNet gross| < m + 1 / 2 ∧
    m + 1 / 2 ≤ |rate.exactNet gross| +
      Decimal.slack (rate.exactDigits gross) / (2 * tenPow rate.fraction.places)

theorem abs_exactNet :
    |rate.exactNet gross| = (rate.exactDigits gross : Rat) / tenPow rate.fraction.places := by
  rw [exactNet_eq, abs_div, abs_of_pos (Decimal.tenPow_cast_pos _), exactDigits, Nat.cast_natAbs,
    Int.cast_abs]

theorem raisedToHalf_iff : rate.RaisedToHalf gross ↔ ∃ m : Nat,
    2 * rate.exactDigits gross < (2 * m + 1) * tenPow rate.fraction.places ∧
      (2 * m + 1) * tenPow rate.fraction.places ≤
        2 * rate.exactDigits gross + Decimal.slack (rate.exactDigits gross) := by
  have hpos := Decimal.tenPow_cast_pos rate.fraction.places
  unfold RaisedToHalf
  rw [abs_exactNet]
  generalize rate.exactDigits gross = n
  refine exists_congr fun m => and_congr ?_ ?_
  · rw [div_lt_iff₀ hpos, ← Nat.cast_lt (α := Rat)]
    push_cast
    constructor <;> intro h <;> linarith
  · have hsum : (n : Rat) / tenPow rate.fraction.places +
        Decimal.slack n / (2 * tenPow rate.fraction.places) =
          (2 * n + Decimal.slack n) / (2 * tenPow rate.fraction.places) := by
      field_simp
    rw [hsum, le_div_iff₀ (by positivity), ← Nat.cast_le (α := Rat)]
    push_cast
    constructor <;> intro h <;> linarith

/-- A discount leaves a whole amount from its half, less half the slack, on. -/
theorem lt_natAbs_netOf_iff (h : rate.fraction.isUnit = true) (hg : Fits gross) {m : Nat} :
    m < (rate.netOf gross).natAbs ↔ (2 * m + 1) * tenPow rate.fraction.places ≤
      2 * rate.exactDigits gross + Decimal.slack (rate.exactDigits gross) := by
  obtain ⟨net, hnet, hnetOf⟩ := exists_fit?_product h hg
  rw [hnetOf]
  exact Decimal.lt_natAbs_nearestInt_iff hnet rate.fraction.places_le (exactDigits_le h hg)

theorem slack_exactDigits_le (h : rate.fraction.isUnit = true) (hg : Fits gross) :
    Decimal.slack (rate.exactDigits gross) ≤ tenPow rate.fraction.places := by
  obtain ⟨net, hnet, -⟩ := exists_fit?_product h hg
  exact Decimal.slack_le hnet rate.fraction.places_le

/-- What a discount leaves has the sign of the charge. -/
theorem netOf_eq_sign_mul (h : rate.fraction.isUnit = true) :
    rate.netOf gross = gross.sign * (rate.netOf gross).natAbs := by
  rcases Int.lt_trichotomy gross 0 with hneg | rfl | hpos
  · have := netOf_nonpos h hneg.le
    rw [Int.sign_eq_neg_one_of_neg hneg]
    omega
  · have := natAbs_netOf_le h 0
    rw [Int.sign_zero]
    omega
  · have := netOf_nonneg h hpos.le
    rw [Int.sign_eq_one_of_pos hpos]
    omega

theorem awayFromZero_exactNet (h : rate.fraction.isUnit = true) :
    Rounding.awayFromZero (rate.exactNet gross) = gross.sign *
      Rounding.halfUp (rate.exactDigits gross) (tenPow rate.fraction.places) := by
  rw [exactNet_eq, Rounding.awayFromZero_div _ (Numeral.tenPow_pos _)]
  unfold exactDigits
  rcases (Decimal.keptCoefficient_nonneg h).eq_or_lt with hzero | hpos
  · have hnone := Rounding.halfUp_le (n := 0) (Numeral.tenPow_pos rate.fraction.places)
    rw [← hzero, mul_zero, Int.natAbs_zero, Nat.le_zero.1 hnone, Nat.cast_zero, mul_zero, mul_zero]
  · rw [Int.sign_mul, Int.sign_eq_one_of_pos hpos, mul_one]

/-- The amount is the exact figure rounded once, or one more. -/
theorem natAbs_netOf_cases (h : rate.fraction.isUnit = true) (hg : Fits gross) :
    let once := Rounding.halfUp (rate.exactDigits gross) (tenPow rate.fraction.places)
    ¬rate.RaisedToHalf gross ∧ (rate.netOf gross).natAbs = once ∨
      rate.RaisedToHalf gross ∧ (rate.netOf gross).natAbs = once + 1 := by
  intro once
  have hpos := Numeral.tenPow_pos rate.fraction.places
  have hnet (m : Nat) := lt_natAbs_netOf_iff h hg (m := m)
  have honce (m : Nat) : m < once ↔ _ := Rounding.lt_halfUp_iff hpos
  have hraised : rate.RaisedToHalf gross ↔ once < (rate.netOf gross).natAbs := by
    rw [raisedToHalf_iff]
    constructor
    · rintro ⟨m, hbelow, habove⟩
      have := (hnet m).2 habove
      have := mt (honce m).1 (Nat.not_le.2 hbelow)
      omega
    · intro hlt
      exact ⟨once, Nat.not_le.1 (mt (honce once).2 (Nat.lt_irrefl once)), (hnet once).1 hlt⟩
  have hle : once ≤ (rate.netOf gross).natAbs :=
    le_of_forall_lt fun m hm => (hnet m).2 (Nat.le_trans ((honce m).1 hm) (Nat.le_add_right _ _))
  have hge : (rate.netOf gross).natAbs ≤ once + 1 := by
    by_contra hlt
    have habove := (hnet (once + 1)).1 (Nat.not_le.1 hlt)
    have hbelow := mt (honce once).2 (Nat.lt_irrefl once)
    have hslack := slack_exactDigits_le h hg
    have hstep : (2 * (once + 1) + 1) * tenPow rate.fraction.places =
        (2 * once + 1) * tenPow rate.fraction.places + 2 * tenPow rate.fraction.places := by ring
    omega
  rw [hraised]
  omega

/-- What a discount leaves is the exact figure rounded once, except that a figure that is raised to
a half cent goes to the next cent. -/
theorem netOf_cases (h : rate.fraction.isUnit = true) (hg : Fits gross) :
    ¬rate.RaisedToHalf gross ∧
        rate.netOf gross = Rounding.awayFromZero (rate.exactNet gross) ∨
      rate.RaisedToHalf gross ∧ gross ≠ 0 ∧
        rate.netOf gross = Rounding.awayFromZero (rate.exactNet gross) + gross.sign := by
  rw [awayFromZero_exactNet h, netOf_eq_sign_mul h]
  rcases natAbs_netOf_cases h hg with ⟨hraised, hsize⟩ | ⟨hraised, hsize⟩
  · exact .inl ⟨hraised, by rw [hsize]⟩
  · refine .inr ⟨hraised, ?_, ?_⟩
    · rintro rfl
      have := natAbs_netOf_le h 0
      omega
    · rw [hsize, Nat.cast_succ, mul_add, mul_one]

theorem not_raisedToHalf_of_lt (h : rate.exactDigits gross < Decimal.sizeLimit) :
    ¬rate.RaisedToHalf gross := by
  rw [raisedToHalf_iff, Decimal.slack_of_lt h]
  rintro ⟨m, hbelow, habove⟩
  omega

/-- A rate that is accepted leaves of every amount the exact figure, rounded once to whole cents, a
half cent away from zero; only a figure that is raised to a half cent it does not reach goes one
cent further. -/
theorem apply_rounding {fraction : Decimal} {rate : DiscountRate}
    (h : ofFraction fraction = .ok rate) (gross : Cents) :
    ∃ net, rate.apply gross = .ok net ∧
      (net.toInt = Rounding.awayFromZero (rate.exactNet gross.toInt) ↔
        ¬rate.RaisedToHalf gross.toInt) ∧
      (rate.RaisedToHalf gross.toInt →
        net.toInt = Rounding.awayFromZero (rate.exactNet gross.toInt) + gross.toInt.sign) := by
  obtain ⟨hunit, rfl⟩ := Tariff.ofFraction_eq_ok_iff.1 h
  have hrate : (⟨fraction⟩ : DiscountRate).fraction.isUnit = true := hunit
  obtain ⟨net, happly, hnet⟩ := apply_eq_ok hrate gross
  refine ⟨net, happly, ?_⟩
  rw [hnet]
  rcases netOf_cases hunit gross.fits_toInt with ⟨hraised, honce⟩ | ⟨hraised, hzero, hnext⟩
  · exact ⟨iff_of_true honce hraised, fun h => absurd h hraised⟩
  · have hsign : gross.toInt.sign ≠ 0 := mt Int.sign_eq_zero_iff_zero.1 hzero
    refine ⟨iff_of_false ?_ (not_not_intro hraised), fun _ => hnext⟩
    omega

/-- A discount of an eighteenth, to all places that a decimal can have. -/
def eighteenth : DiscountRate :=
  ⟨⟨false, 555555555555555555555555556, 28, by decide, Nat.le.refl⟩⟩

/-- Of nine cents it leaves a little less than eight and a half. -/
theorem exactNet_eighteenth :
    eighteenth.exactNet 9 = 84999999999999999999999999996 / 10 ^ 28 := by
  unfold exactNet Decimal.toRat eighteenth
  norm_num [Decimal.coefficient, tenPow]

theorem awayFromZero_exactNet_eighteenth : Rounding.awayFromZero (eighteenth.exactNet 9) = 8 := by
  rw [exactNet_eighteenth]
  unfold Rounding.awayFromZero
  norm_num [round_eq, Int.floor_eq_iff]

/-- The nine cents are left whole, for the product has a digit too many. -/
theorem raisedToHalf_eighteenth : eighteenth.RaisedToHalf 9 := by
  have hlost : Decimal.lostDigits (eighteenth.exactDigits 9) = 1 :=
    (Nat.find_eq_iff _).2 ⟨by decide, by decide⟩
  refine raisedToHalf_iff.2 ⟨8, by decide, ?_⟩
  rw [Decimal.slack_of_not_lt (by decide), hlost]
  decide

theorem apply_rounding_eighteenth :
    ofFraction eighteenth.fraction = .ok eighteenth ∧ eighteenth.RaisedToHalf 9 ∧
      ∃ net, eighteenth.apply ⟨9⟩ = .ok net ∧
        net.toInt = Rounding.awayFromZero (eighteenth.exactNet 9) + 1 := by
  have haccepted : ofFraction eighteenth.fraction = .ok eighteenth := rfl
  obtain ⟨net, hnet, -, hraised⟩ := apply_rounding haccepted ⟨9⟩
  exact ⟨haccepted, raisedToHalf_eighteenth, net, hnet, hraised raisedToHalf_eighteenth⟩

/-- The two roundings are not always one. -/
theorem exists_apply_ne_awayFromZero :
    ¬∀ (fraction : Decimal) (rate : DiscountRate), ofFraction fraction = .ok rate →
      ∀ gross net : Cents, rate.apply gross = .ok net →
        net.toInt = Rounding.awayFromZero (rate.exactNet gross.toInt) := by
  intro h
  have hnet := h eighteenth.fraction eighteenth rfl ⟨9⟩ ⟨9⟩ (by decide +kernel)
  rw [show (⟨9⟩ : Cents).toInt = 9 from rfl, awayFromZero_exactNet_eighteenth] at hnet
  exact absurd hnet (by decide)

/-! ### Figures that fit -/

/-- A figure whose digits fit a decimal is rounded once. -/
theorem netOf_eq_awayFromZero_of_lt (h : rate.fraction.isUnit = true) (hg : Fits gross)
    (hfits : rate.exactDigits gross < Decimal.sizeLimit) :
    rate.netOf gross = Rounding.awayFromZero (rate.exactNet gross) := by
  rcases netOf_cases h hg with ⟨-, honce⟩ | ⟨hraised, -⟩
  · exact honce
  · exact absurd hraised (not_raisedToHalf_of_lt hfits)

theorem isUnit_ofBasisPoints_iff {points : UInt32} :
    (Decimal.ofBasisPoints points).isUnit = true ↔ points.toNat ≤ 10000 := by
  have hcoefficient : (Decimal.ofBasisPoints points).coefficient = points.toNat := rfl
  have hplaces : (Decimal.ofBasisPoints points).places = 4 := rfl
  rw [Decimal.isUnit_iff, hcoefficient, hplaces, show tenPow 4 = 10000 from rfl]
  omega

theorem ofBasisPoints_eq_ok {points : UInt32} (h : points.toNat ≤ 10000) :
    ofBasisPoints points = .ok ⟨.ofBasisPoints points⟩ :=
  Tariff.ofFraction_eq_ok_iff.2 ⟨isUnit_ofBasisPoints_iff.2 h, rfl⟩

/-- Discounts in basis points are rounded once, whatever the amount. -/
theorem netOf_of_ofBasisPoints {points : UInt32} (hrate : ofBasisPoints points = .ok rate)
    (hg : Fits gross) :
    rate.netOf gross = gross.sign *
      ((2 * gross.natAbs * (10000 - points.toNat) + 10000) / 20000 : Nat) := by
  obtain ⟨hunit, hfraction⟩ := Tariff.ofFraction_eq_ok_iff.1 hrate
  have hplaces : tenPow rate.fraction.places = 10000 := by rw [hfraction]; rfl
  have hkept : rate.fraction.keptCoefficient = (10000 - points.toNat : Nat) := by
    rw [Nat.cast_sub (isUnit_ofBasisPoints_iff.1 hunit), hfraction]
    rfl
  have hrateUnit : rate.fraction.isUnit = true := by rw [hfraction]; exact hunit
  have hdigits : rate.exactDigits gross = gross.natAbs * (10000 - points.toNat) := by
    unfold exactDigits
    rw [hkept, Int.natAbs_mul, Int.natAbs_natCast]
  have hfits : rate.exactDigits gross < Decimal.sizeLimit := by
    have hsize := exactDigits_le hrateUnit hg
    rw [hplaces] at hsize
    exact Nat.lt_of_le_of_lt hsize (by decide)
  rw [netOf_eq_awayFromZero_of_lt hrateUnit hg hfits, awayFromZero_exactNet hrateUnit, hdigits,
    hplaces]
  unfold Rounding.halfUp
  rw [Nat.mul_assoc]

/-- What a rate from zero to one leaves of an amount is little more than half a cent from the exact
figure at most, and is this figure rounded once if its digits fit a decimal. They do for every
number of basis points, of which there are ten thousand at most. -/
theorem apply_accuracy :
    (∀ (rate : DiscountRate) (gross : Cents), rate.InRange → ∃ net, rate.apply gross = .ok net ∧
        |(net.toInt : Rat) - gross.toInt * (1 - rate.fraction.toRat)| ≤ 1 / 2 + 1 / (2 * 10 ^ 9) ∧
        ((gross.toInt.natAbs : Int) * (10 ^ rate.fraction.places - rate.fraction.coefficient) <
            2 ^ 96 →
          net.toInt = Rounding.awayFromZero (gross.toInt * (1 - rate.fraction.toRat)))) ∧
    (∀ (points : UInt32) (gross : Cents), points.toNat ≤ 10000 →
      ∃ rate net, ofBasisPoints points = .ok rate ∧ rate.apply gross = .ok net ∧
        net.toInt = gross.toInt.sign *
          ((2 * gross.toInt.natAbs * (10000 - points.toNat) + 10000) / 20000 : Nat)) ∧
    ∀ points : UInt32, 10000 < points.toNat → ofBasisPoints points =
      .error (.invalidInput "discount_rate"
        s!"{(Decimal.ofBasisPoints points).text} is outside [0, 1]") := by
  refine ⟨fun rate gross hrange => ?_, fun points gross hpoints => ?_, fun points hpoints => ?_⟩
  · have hunit := inRange_iff.1 hrange
    obtain ⟨net, happly, hnet⟩ := apply_eq_ok hunit gross
    refine ⟨net, happly, ?_, fun hfits => ?_⟩
    · rw [hnet]
      exact abs_netOf_sub_le hunit gross.fits_toInt
    · rw [hnet]
      refine netOf_eq_awayFromZero_of_lt hunit gross.fits_toInt (Int.ofNat_lt.1 ?_)
      rw [cast_exactDigits hunit]
      exact hfits
  · have hrate := ofBasisPoints_eq_ok hpoints
    obtain ⟨net, happly, hnet⟩ := apply_eq_ok (isUnit_ofBasisPoints_iff.2 hpoints) gross
    exact ⟨_, net, hrate, happly, hnet.trans (netOf_of_ofBasisPoints hrate gross.fits_toInt)⟩
  · exact if_neg (mt isUnit_ofBasisPoints_iff.1 (Nat.not_le.2 hpoints))

/-- At a discount of an eighteenth eight cents have few enough digits. In basis points even the
greatest credit has. -/
theorem apply_accuracy_samples :
    eighteenth.InRange ∧
      (∃ net, eighteenth.apply ⟨8⟩ = .ok net ∧
        net.toInt = Rounding.awayFromZero (8 * (1 - eighteenth.fraction.toRat))) ∧
      (∃ rate net, ofBasisPoints 5750 = .ok rate ∧ rate.apply ⟨Int64.minValue⟩ = .ok net ∧
        net.toInt = -3919933115663279718) ∧
      ofBasisPoints 10001 = .error (.invalidInput "discount_rate" "1.0001 is outside [0, 1]") := by
  have hrange : eighteenth.InRange := inRange_iff.2 (by decide)
  obtain ⟨hrate, hpoints, hrefused⟩ := apply_accuracy
  obtain ⟨net, happly, -, hexact⟩ := hrate eighteenth ⟨8⟩ hrange
  obtain ⟨rate, net', haccepted, happly', hnet'⟩ := hpoints 5750 ⟨Int64.minValue⟩ (by decide)
  refine ⟨hrange, ⟨net, happly, hexact (by decide)⟩, ⟨rate, net', haccepted, happly', ?_⟩, ?_⟩
  · rw [hnet']
    decide
  · exact (hrefused 10001 (by decide)).trans (by decide +kernel)

end DiscountRate

end MoveRating
