import MoveRating.Units

/-!
# Words and the integers they denote

Weights and amounts are words. Their sums and products are those of the integers as long as these
fit a word.

* `toInt_checked` says what becomes of an integer that is to be kept in a word.
* `Pounds.toInt_toCwt` gives the hundredweights in a weight that is not negative.
-/

namespace MoveRating

/-- There is a word that denotes the integer. -/
def Fits (n : Int) : Prop := Int64.minValue.toInt ≤ n ∧ n ≤ Int64.maxValue.toInt

instance : DecidablePred Fits := fun n =>
  inferInstanceAs (Decidable (Int64.minValue.toInt ≤ n ∧ n ≤ Int64.maxValue.toInt))

theorem fits_toInt (w : Int64) : Fits w.toInt := ⟨w.minValue_le_toInt, w.toInt_le⟩

theorem fits_of_natAbs_le {n : Int} (h : (n.natAbs : Int) ≤ Int64.maxValue.toInt) : Fits n := by
  rw [Int64.toInt_maxValue] at h
  unfold Fits
  rw [Int64.toInt_minValue, Int64.toInt_maxValue]
  omega

theorem Fits.of_le {n m : Int} (hm : Fits m) (hn : 0 ≤ n) (hnm : n ≤ m) : Fits n := by
  refine ⟨?_, Int.le_trans hnm hm.2⟩
  rw [Int64.toInt_minValue]
  omega

theorem word?_of_fits {n : Int} (h : Fits n) : word? n = some (Int64.ofInt n) := if_pos h

theorem toInt_ofInt_of_fits {n : Int} (h : Fits n) : (Int64.ofInt n).toInt = n :=
  word?_eq_some_iff.1 (word?_of_fits h)

/-- An integer that fits is kept as it is, and any other is an overflow. -/
theorem toInt_checked (cause : Overflow) (n : Int) :
    Int64.toInt <$> checked cause n = if Fits n then .ok n else .error cause := by
  unfold checked
  split
  · next w hw =>
    obtain rfl := word?_eq_some_iff.1 hw
    rw [if_pos (fits_toInt w)]
    rfl
  · next hn =>
    rw [if_neg]
    · rfl
    · intro hfits
      rw [word?_of_fits hfits] at hn
      cases hn

/-- A count below the 32nd power of two is the same as a word. -/
theorem toInt_ofNat_of_lt {n : Nat} (h : n < UInt32.size) : (Int64.ofNat n).toInt = n :=
  Int64.toInt_ofNat_of_lt (Nat.lt_trans h (by decide))

/-- All words but the least have a negative. -/
theorem toInt_neg_of_ne {w : Int64} (h : w ≠ Int64.minValue) : (-w).toInt = -w.toInt := by
  have hne : w.toInt ≠ Int64.minValue.toInt := mt Int64.toInt_inj.1 h
  have hlower := w.minValue_le_toInt
  have hupper := w.toInt_le
  rw [Int64.toInt_minValue] at hne hlower
  rw [Int64.toInt_maxValue] at hupper
  rw [Int64.toInt_neg, Int.bmod_eq_of_le (by omega) (by omega)]

/-! ### Amounts and weights -/

/-- The number of cents. -/
def Cents.toInt (a : Cents) : Int := a.val.toInt

/-- The number of hundredweights. -/
def Cwt.toInt (w : Cwt) : Int := w.val.toInt

/-- The number of pounds. -/
def Pounds.toInt (p : Pounds) : Int := p.val.toInt

theorem Cents.toInt_inj {a b : Cents} : a.toInt = b.toInt ↔ a = b := by
  obtain ⟨a⟩ := a
  obtain ⟨b⟩ := b
  simp [Cents.toInt, Int64.toInt_inj]

theorem Cents.fits_toInt (a : Cents) : Fits a.toInt := MoveRating.fits_toInt a.val

theorem Cents.exists_toInt_eq {n : Int} (h : Fits n) : ∃ a : Cents, a.toInt = n :=
  ⟨⟨Int64.ofInt n⟩, toInt_ofInt_of_fits h⟩

theorem Pounds.toInt_toCwt {p : Pounds} (h : 0 ≤ p.toInt) : p.toCwt.toInt = p.toInt / 100 := by
  have hval : 0 ≤ p.val.toInt := h
  -- division of words rounds towards zero, which is down here
  change (p.val / 100).toInt = p.val.toInt / 100
  rw [Int64.toInt_div_of_ne_right p.val 100 (by decide), Int.tdiv_eq_ediv_of_nonneg hval]
  rfl

theorem Pounds.toCwt_nonneg {p : Pounds} (h : 0 ≤ p.toInt) : 0 ≤ p.toCwt.toInt := by
  rw [toInt_toCwt h]
  omega

end MoveRating
