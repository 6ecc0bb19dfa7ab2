import MoveRating.Decimal.Text
import MoveRating.Proofs.Digits

/-!
# Decimals read back

What `Decimal.text` writes is read back by `Decimal.parse?`.

* `Decimal.readDigits_whole`, `Decimal.readDigits_fraction` : how the digits before and after the
  point are read.
* `Decimal.parse?_text` : a decimal is read back from its text with all its places. Only the sign of
  a zero is lost (`Decimal.plain`), which makes no difference to the value (`Decimal.cmp_plain`).
-/

namespace MoveRating

namespace Decimal

/-- The decimal without the sign of a zero. -/
def plain (d : Decimal) : Decimal := { d with negative := d.negative && d.magnitude != 0 }

@[simp] theorem coefficient_plain (d : Decimal) : d.plain.coefficient = d.coefficient := by
  obtain ⟨negative, magnitude, places, hsize, hplaces⟩ := d
  cases magnitude with
  | zero => cases negative <;> rfl
  | succ n => simp [plain, coefficient]

/-- The sign of a zero makes no difference to the value. -/
theorem cmp_plain (d : Decimal) : d.plain.cmp d = .eq := by
  rw [cmp, coefficient_plain]
  exact Int.compare_eq_eq.2 rfl

/-! ### Reading digits -/

variable {ds rest : List Char} {coefficient places : Nat}

/-- A digit never stands for an underscore or a point. -/
theorem digit_ne {c : Char} (h : c.isDigit = true) : c ≠ '_' ∧ c ≠ '.' ∧ c ≠ '-' ∧ c ≠ '+' := by
  refine ⟨?_, ?_, ?_, ?_⟩
  all_goals
    rintro rfl
    exact absurd h (by decide)

/-- Digits before the point. -/
theorem readDigits_whole (hds : ∀ c ∈ ds, c.isDigit = true) (started : Bool)
    (hsize : Nat.ofDigitChars 10 ds coefficient < sizeLimit) :
    readDigits coefficient places false started (ds ++ rest) =
      readDigits (Nat.ofDigitChars 10 ds coefficient) places false (started || !ds.isEmpty)
        rest := by
  induction ds generalizing coefficient started with
  | nil => simp
  | cons c ds ih =>
    obtain ⟨hc, hds⟩ := List.forall_mem_cons.1 hds
    obtain ⟨hunderscore, hpoint, -⟩ := digit_ne hc
    rw [Nat.ofDigitChars_cons] at hsize ⊢
    have hfits : ¬sizeLimit ≤ 10 * coefficient + digitValue c :=
      Nat.not_le_of_lt (Nat.lt_of_le_of_lt (Numeral.le_ofDigitChars ds _) hsize)
    rw [List.cons_append, readDigits]
    simp only [hunderscore, hpoint, hc, hfits, false_and, not_true_eq_false, if_false,
      Bool.false_eq_true]
    rw [digitValue, ih hds true hsize]
    simp

/-- Digits after the point. -/
theorem readDigits_fraction (hds : ∀ c ∈ ds, c.isDigit = true)
    (hplaces : places + ds.length ≤ 28)
    (hsize : Nat.ofDigitChars 10 ds coefficient < sizeLimit) :
    readDigits coefficient places true true ds =
      some (Nat.ofDigitChars 10 ds coefficient, places + ds.length) := by
  induction ds generalizing coefficient places with
  | nil => simp [readDigits]
  | cons c ds ih =>
    obtain ⟨hc, hds⟩ := List.forall_mem_cons.1 hds
    obtain ⟨hunderscore, hpoint, -⟩ := digit_ne hc
    rw [Nat.ofDigitChars_cons] at hsize ⊢
    rw [List.length_cons] at hplaces ⊢
    have hfits : ¬sizeLimit ≤ 10 * coefficient + digitValue c :=
      Nat.not_le_of_lt (Nat.lt_of_le_of_lt (Numeral.le_ofDigitChars ds _) hsize)
    have hroom : places ≠ 28 := by omega
    rw [readDigits]
    simp only [hunderscore, hpoint, hc, hfits, hroom, false_and, not_true_eq_false, if_false,
      and_false, or_self, if_true]
    rw [digitValue, ih hds (by omega) hsize, Nat.add_right_comm, Nat.add_assoc]

/-- The digits of a decimal, all but those after the point. -/
def wholeChars (d : Decimal) : List Char :=
  let ds := Numeral.padded (d.places + 1) d.magnitude
  ds.take (ds.length - d.places)

/-- The digits of a decimal after the point. -/
def fractionChars (d : Decimal) : List Char :=
  let ds := Numeral.padded (d.places + 1) d.magnitude
  ds.drop (ds.length - d.places)

/-- A decimal as characters, without its sign. -/
def unsignedChars (d : Decimal) : List Char :=
  if d.places = 0 then d.wholeChars else d.wholeChars ++ '.' :: d.fractionChars

theorem chars_eq (d : Decimal) :
    d.chars = if d.negative then '-' :: d.unsignedChars else d.unsignedChars := rfl

theorem length_fractionChars (d : Decimal) : d.fractionChars.length = d.places := by
  have := Numeral.length_padded (d.places + 1) d.magnitude
  simp only [fractionChars, List.length_drop]
  omega

theorem wholeChars_ne_nil (d : Decimal) : d.wholeChars ≠ [] := by
  have := Numeral.length_padded (d.places + 1) d.magnitude
  rw [← List.length_pos_iff]
  simp only [wholeChars, List.length_take]
  omega

theorem isDigit_of_mem_wholeChars (d : Decimal) : ∀ c ∈ d.wholeChars, c.isDigit = true :=
  fun _ h => Numeral.isDigit_of_mem_padded (List.mem_of_mem_take h)

theorem isDigit_of_mem_fractionChars (d : Decimal) : ∀ c ∈ d.fractionChars, c.isDigit = true :=
  fun _ h => Numeral.isDigit_of_mem_padded (List.mem_of_mem_drop h)

/-- Both parts together are the digits of the magnitude. -/
theorem ofDigitChars_fractionChars (d : Decimal) :
    Nat.ofDigitChars 10 d.fractionChars (Nat.ofDigitChars 10 d.wholeChars 0) = d.magnitude := by
  rw [← Nat.ofDigitChars_append, wholeChars, fractionChars, List.take_append_drop]
  exact Numeral.value_padded _ _

theorem readDigits_unsignedChars (d : Decimal) :
    readDigits 0 0 false false d.unsignedChars = some (d.magnitude, d.places) := by
  have hvalue := d.ofDigitChars_fractionChars
  have hwhole : Nat.ofDigitChars 10 d.wholeChars 0 < sizeLimit := by
    refine Nat.lt_of_le_of_lt (Numeral.le_ofDigitChars d.fractionChars _) ?_
    rw [hvalue]
    exact d.size_lt
  have hstarted : (false || !d.wholeChars.isEmpty) = true := by
    simp [d.wholeChars_ne_nil]
  by_cases hplaces : d.places = 0
  · have hnil : d.fractionChars = [] := by
      rw [← List.length_eq_zero_iff, d.length_fractionChars, hplaces]
    rw [hnil, Nat.ofDigitChars_nil] at hvalue
    rw [unsignedChars, if_pos hplaces, ← List.append_nil d.wholeChars,
      readDigits_whole d.isDigit_of_mem_wholeChars false hwhole, hstarted, hvalue, hplaces]
    rfl
  · rw [unsignedChars, if_neg hplaces, readDigits_whole d.isDigit_of_mem_wholeChars false hwhole,
      hstarted, readDigits]
    simp only [Char.reduceEq, false_and, not_false_eq_true, Bool.false_eq_true, and_self, if_true,
      if_false]
    have hroom : 0 + d.fractionChars.length ≤ 28 := by
      rw [d.length_fractionChars, Nat.zero_add]
      exact d.places_le
    rw [readDigits_fraction d.isDigit_of_mem_fractionChars hroom (hvalue.symm ▸ d.size_lt), hvalue,
      d.length_fractionChars, Nat.zero_add]

/-! ### Reading decimals -/

/-- A text without sign begins with a digit. -/
theorem exists_unsignedChars (d : Decimal) :
    ∃ c cs, d.unsignedChars = c :: cs ∧ c.isDigit = true := by
  obtain ⟨c, cs, hcs⟩ := List.exists_cons_of_ne_nil d.wholeChars_ne_nil
  have hc : c.isDigit = true := d.isDigit_of_mem_wholeChars c (hcs ▸ List.mem_cons_self)
  by_cases hplaces : d.places = 0
  · exact ⟨c, cs, by rw [unsignedChars, if_pos hplaces, hcs], hc⟩
  · exact ⟨c, cs ++ '.' :: d.fractionChars,
      by rw [unsignedChars, if_neg hplaces, hcs, List.cons_append], hc⟩

/-- No exponent is written. -/
theorem isExponentMark_of_mem_chars (d : Decimal) :
    ∀ c ∈ d.chars, isExponentMark c = false := by
  have hdigit : ∀ c : Char, c.isDigit = true → isExponentMark c = false := by
    intro c hc
    rw [isExponentMark, Bool.or_eq_false_iff]
    refine ⟨?_, ?_⟩
    all_goals
      rw [beq_eq_false_iff_ne]
      rintro rfl
      exact absurd hc (by decide)
  have hunsigned : ∀ c ∈ d.unsignedChars, isExponentMark c = false := by
    intro c hc
    by_cases hplaces : d.places = 0
    · rw [unsignedChars, if_pos hplaces] at hc
      exact hdigit c (d.isDigit_of_mem_wholeChars c hc)
    · rw [unsignedChars, if_neg hplaces, List.mem_append, List.mem_cons] at hc
      rcases hc with hc | rfl | hc
      · exact hdigit c (d.isDigit_of_mem_wholeChars c hc)
      · rfl
      · exact hdigit c (d.isDigit_of_mem_fractionChars c hc)
  intro c hc
  rw [chars_eq] at hc
  by_cases hneg : d.negative
  · rw [if_pos hneg, List.mem_cons] at hc
    rcases hc with rfl | hc
    · rfl
    · exact hunsigned c hc
  · rw [if_neg hneg] at hc
    exact hunsigned c hc

/-- A decimal is made up of its coefficient and its places. -/
theorem ofParts?_coefficient (d : Decimal) : ofParts? d.coefficient d.places = some d.plain := by
  obtain ⟨negative, magnitude, places, hsize, hplaces⟩ := d
  cases negative with
  | false => simp [ofParts?, coefficient, plain, hsize, hplaces]
  | true =>
    have hsign : decide (0 < magnitude) = (magnitude != 0) := by
      cases magnitude with
      | zero => rfl
      | succ n => simp
    simp [ofParts?, coefficient, plain, hsize, hplaces, hsign]

/-- A text that begins with a digit has no sign. -/
theorem ofPlain?_of_isDigit {c : Char} {cs : List Char} (hc : c.isDigit = true) :
    ofPlain? (c :: cs) =
      (readDigits 0 0 false false (c :: cs)).bind fun (c, p) => ofParts? c p := by
  obtain ⟨-, -, hminus, hplus⟩ := digit_ne hc
  rw [ofPlain?]
  · simpa using hminus
  · simpa using hplus

theorem ofPlain?_chars (d : Decimal) : ofPlain? d.chars = some d.plain := by
  rw [chars_eq, ← ofParts?_coefficient, coefficient]
  by_cases hneg : d.negative
  · rw [if_pos hneg, if_pos hneg, ofPlain?, readDigits_unsignedChars]
    rfl
  · obtain ⟨c, cs, hcs, hc⟩ := d.exists_unsignedChars
    have hread := d.readDigits_unsignedChars
    rw [if_neg hneg, if_neg hneg, hcs, ofPlain?_of_isDigit hc, ← hcs, hread]
    rfl

/-- A decimal is read back as it was written, but for the sign of a zero. -/
@[simp] theorem parse?_text (d : Decimal) : parse? d.text = some d.plain := by
  have hnone : d.chars.dropWhile (fun c => !isExponentMark c) = [] := by
    rw [List.dropWhile_eq_nil_iff]
    simpa using d.isExponentMark_of_mem_chars
  rw [parse?, text, String.toList_ofList, ofChars?, hnone]
  exact d.ofPlain?_chars

end Decimal

end MoveRating
