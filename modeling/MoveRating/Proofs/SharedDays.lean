import MoveRating.Proofs.Ranges

/-!
# Overlaps and shared days

Two ranges overlap when each begins before the other ends. That they share a day follows from this
only for ranges that have days at all. A range without days, which ends where it begins or before,
overlaps a range that reaches over it on both sides.

* `EffectiveRange.SharesDay` : some day lies in both ranges.
* `EffectiveRange.Straddles` : a range has a day before the end of the other one and a day from the
  beginning of the other one on.
* `EffectiveRange.overlaps_verdict` : ranges overlap if they share a day, or if one has no days and
  the other one straddles it.
* `EffectiveRange.exists_overlaps_without_day` : two ranges that overlap and share no day.
-/

namespace MoveRating

namespace EffectiveRange

/-- Some day lies in both ranges. -/
def SharesDay (a b : EffectiveRange) : Prop := ∃ d, a.contains d = true ∧ b.contains d = true

/-- The range has a day before the other one ends, and a day on which the other one has begun. -/
def Straddles (a b : EffectiveRange) : Prop :=
  (∃ d, a.contains d = true ∧ d < b.upper) ∧ ∃ d, a.contains d = true ∧ b.lower ≤ d

variable {a b : EffectiveRange}

theorem overlaps_iff : a.overlaps b = true ↔ a.lower < b.upper ∧ b.lower < a.upper := by
  simp [overlaps]

/-- Whether two ranges overlap does not depend on which comes first. -/
theorem overlaps_comm (a b : EffectiveRange) : a.overlaps b = b.overlaps a := Bool.and_comm _ _

/-- A range in which a day lies is not empty. -/
theorem isEmpty_of_contains {d : Date} (h : a.contains d = true) : a.isEmpty = false := by
  obtain ⟨hlower, hupper⟩ := contains_iff.1 h
  exact isEmpty_eq_false_iff.2 (Int.lt_of_le_of_lt hlower hupper)

/-- The empty ranges are those in which no day lies. -/
theorem isEmpty_eq_true_iff : a.isEmpty = true ↔ ∀ d, a.contains d = false := by
  constructor
  · intro h d
    rw [Bool.eq_false_iff]
    intro hd
    rw [isEmpty_of_contains hd] at h
    cases h
  · intro h
    cases hempty : a.isEmpty with
    | true => rfl
    | false =>
      -- a range that ends after it begins holds its first day
      have hfirst : a.contains a.lower = true :=
        contains_iff.2 ⟨Int.le_refl _, isEmpty_eq_false_iff.1 hempty⟩
      rw [h a.lower] at hfirst
      cases hfirst

theorem sharesDay_iff :
    a.SharesDay b ↔ a.overlaps b = true ∧ a.isEmpty = false ∧ b.isEmpty = false := by
  constructor
  · rintro ⟨d, ha, hb⟩
    exact ⟨overlaps_of_contains ha hb, isEmpty_of_contains ha, isEmpty_of_contains hb⟩
  · rintro ⟨hover, ha, hb⟩
    exact exists_contains_of_overlaps ha hb hover

/-- A range overlaps all that it straddles. -/
theorem Straddles.overlaps (h : a.Straddles b) : a.overlaps b = true := by
  obtain ⟨⟨d, hd, hbefore⟩, ⟨d', hd', hafter⟩⟩ := h
  rw [overlaps_iff]
  exact ⟨Int.lt_of_le_of_lt (contains_iff.1 hd).1 hbefore,
    Int.lt_of_le_of_lt hafter (contains_iff.1 hd').2⟩

/-- A range without days is straddled by all that overlap it. -/
theorem straddles_of_overlaps (hb : b.isEmpty = true) (h : a.overlaps b = true) :
    a.Straddles b := by
  obtain ⟨hab, hba⟩ := overlaps_iff.1 h
  have hinverted : b.upper ≤ b.lower := by simpa [isEmpty] using hb
  rw [Date.lt_iff] at hab hba
  rw [Date.le_iff] at hinverted
  refine ⟨⟨a.lower, contains_iff.2 ⟨Int.le_refl _, ?_⟩, hab⟩,
    ⟨b.lower, contains_iff.2 ⟨?_, hba⟩, Int.le_refl _⟩⟩
  · rw [Date.lt_iff]
    omega
  · rw [Date.le_iff]
    omega

/-- Overlap does not depend on the order of the two ranges. Those that share a day are those that
overlap and both have days. Any others overlap just if one of them has no days and the other one
straddles it. -/
theorem overlaps_verdict (a b : EffectiveRange) :
    a.overlaps b = b.overlaps a ∧
      (a.isEmpty = true ↔ ∀ d, a.contains d = false) ∧
      (a.SharesDay b ↔ a.overlaps b = true ∧ a.isEmpty = false ∧ b.isEmpty = false) ∧
      (a.overlaps b = true ↔ a.SharesDay b ∨ (a.isEmpty = true ∧ b.Straddles a) ∨
        (b.isEmpty = true ∧ a.Straddles b)) := by
  refine ⟨overlaps_comm a b, isEmpty_eq_true_iff, sharesDay_iff, fun h => ?_, ?_⟩
  · by_cases ha : a.isEmpty = true
    · exact .inr (.inl ⟨ha, straddles_of_overlaps ha (overlaps_comm a b ▸ h)⟩)
    · by_cases hb : b.isEmpty = true
      · exact .inr (.inr ⟨hb, straddles_of_overlaps hb h⟩)
      · exact .inl (sharesDay_iff.2 ⟨h, Bool.eq_false_iff.2 ha, Bool.eq_false_iff.2 hb⟩)
  · rintro (hday | ⟨-, hstraddles⟩ | ⟨-, hstraddles⟩)
    · exact (sharesDay_iff.1 hday).1
    · exact overlaps_comm a b ▸ hstraddles.overlaps
    · exact hstraddles.overlaps

/-- The first ten days of a month. -/
def tenDays : EffectiveRange := ⟨⟨2021, 3, 1, by decide⟩, ⟨2021, 3, 11, by decide⟩⟩

/-- A range within the ten days that ends where it begins. -/
def noDay : EffectiveRange := ⟨⟨2021, 3, 5, by decide⟩, ⟨2021, 3, 5, by decide⟩⟩

/-- A range within the ten days that ends before it begins. -/
def backwards : EffectiveRange := ⟨⟨2021, 3, 7, by decide⟩, ⟨2021, 3, 3, by decide⟩⟩

/-- Ten days overlap both ranges and share no day with either. -/
theorem exists_overlaps_without_day :
    (tenDays.overlaps noDay = true ∧ ¬tenDays.SharesDay noDay) ∧
      (tenDays.overlaps backwards = true ∧ ¬tenDays.SharesDay backwards) ∧
      ¬∀ a b : EffectiveRange, a.overlaps b = true ↔ a.SharesDay b := by
  have hnoDay : ¬tenDays.SharesDay noDay := by
    rw [sharesDay_iff]
    decide
  have hbackwards : ¬tenDays.SharesDay backwards := by
    rw [sharesDay_iff]
    decide
  exact ⟨⟨by decide, hnoDay⟩, ⟨by decide, hbackwards⟩,
    fun h => hnoDay ((h tenDays noDay).1 (by decide))⟩

end EffectiveRange

end MoveRating
