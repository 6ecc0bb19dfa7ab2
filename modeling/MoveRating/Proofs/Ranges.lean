import MoveRating.Tariff.Check
import MoveRating.Tariff.Selection

/-!
# Rows of disjoint ranges

The check of effective ranges, and what it is good for: of rows whose ranges do not overlap, at most
one applies on a date.

* `rangeFault?_eq_none_iff`: the check passes just if no range is empty and no two overlap.
* `EffectiveRange.overlaps_of_contains` and `EffectiveRange.exists_contains_of_overlaps`: ranges
  that are not empty overlap just if they have a date in common.
* `filter_appliesOn_eq` and `length_filter_appliesOn_le`: the rows that apply on a date.
-/

namespace MoveRating

namespace EffectiveRange

theorem contains_iff {r : EffectiveRange} {d : Date} :
    r.contains d = true ↔ r.lower ≤ d ∧ d < r.upper := by
  simp [contains]

/-- Two ranges with a date in common overlap. -/
theorem overlaps_of_contains {a b : EffectiveRange} {d : Date} (ha : a.contains d = true)
    (hb : b.contains d = true) : a.overlaps b = true := by
  obtain ⟨hla, hua⟩ := contains_iff.1 ha
  obtain ⟨hlb, hub⟩ := contains_iff.1 hb
  rw [Date.le_iff] at hla hlb
  rw [Date.lt_iff] at hua hub
  have hab : a.lower < b.upper := Date.lt_iff.2 (Int.lt_of_le_of_lt hla hub)
  have hba : b.lower < a.upper := Date.lt_iff.2 (Int.lt_of_le_of_lt hlb hua)
  simp [overlaps, hab, hba]

theorem isEmpty_eq_false_iff {r : EffectiveRange} : r.isEmpty = false ↔ r.lower < r.upper := by
  simp [isEmpty, Date.le_iff, Date.lt_iff]

/-- Two ranges that overlap and are not empty have a date in common, the later of their first
days. -/
theorem exists_contains_of_overlaps {a b : EffectiveRange} (ha : a.isEmpty = false)
    (hb : b.isEmpty = false) (h : a.overlaps b = true) :
    ∃ d, a.contains d = true ∧ b.contains d = true := by
  simp only [overlaps, Bool.and_eq_true, decide_eq_true_eq, Date.lt_iff] at h
  rw [isEmpty_eq_false_iff, Date.lt_iff] at ha hb
  simp only [contains_iff, Date.le_iff, Date.lt_iff]
  by_cases hle : a.lower.rank ≤ b.lower.rank
  · exact ⟨b.lower, ⟨hle, h.2⟩, Int.le_refl _, hb⟩
  · exact ⟨a.lower, ⟨Int.le_refl _, ha⟩, by omega, h.1⟩

end EffectiveRange

theorem rangeFault?_eq_none_iff {ranges : List EffectiveRange} :
    rangeFault? ranges = none ↔ (∀ r ∈ ranges, r.isEmpty = false) ∧
      ranges.Pairwise fun a b => a.overlaps b = false := by
  induction ranges with
  | nil => simp [rangeFault?]
  | cons r later ih =>
    rw [List.forall_mem_cons, List.pairwise_cons]
    unfold rangeFault?
    by_cases hempty : r.isEmpty = true
    · simp [hempty]
    · rw [if_neg hempty]
      cases hfind : later.find? r.overlaps with
      | some other =>
        -- the range found overlaps, so the pairs are not all apart
        have hover := List.find?_some hfind
        have hmem := List.mem_of_find?_eq_some hfind
        simp only [reduceCtorEq, false_iff]
        rintro ⟨-, hnone, -⟩
        rw [hnone other hmem] at hover
        cases hover
      | none =>
        have hnone : ∀ b ∈ later, r.overlaps b = false := fun b hb =>
          Bool.eq_false_iff.2 (List.find?_eq_none.1 hfind b hb)
        simp only [ih, Bool.eq_false_iff.2 hempty]
        constructor
        · rintro ⟨hlater, hpairs⟩
          exact ⟨⟨trivial, hlater⟩, hnone, hpairs⟩
        · rintro ⟨⟨-, hlater⟩, -, hpairs⟩
          exact ⟨hlater, hpairs⟩

section

variable {ρ : Type} [EffectiveDated ρ] {rows : List ρ} {date : Date}

/-- The ranges of the rows do not overlap. -/
def DisjointRanges (rows : List ρ) : Prop :=
  rows.Pairwise fun a b =>
    (EffectiveDated.effective a).overlaps (EffectiveDated.effective b) = false

/-- Rows that pass the check are disjoint. -/
theorem disjointRanges_of_rangeFault? (h : rangeFault? (rows.map EffectiveDated.effective) = none) :
    DisjointRanges rows := List.pairwise_map.1 (rangeFault?_eq_none_iff.1 h).2

/-- Of disjoint rows, one that applies on a date is the only one. -/
theorem filter_appliesOn_eq (h : DisjointRanges rows) {row : ρ} (hrow : row ∈ rows)
    (hdate : appliesOn date row = true) : rows.filter (appliesOn date) = [row] := by
  induction rows with
  | nil => exact absurd hrow List.not_mem_nil
  | cons r rest ih =>
    obtain ⟨hr, hrest⟩ := List.pairwise_cons.1 h
    by_cases happlies : appliesOn date r = true
    · -- all rows after one that applies are out of effect
      have hout : ∀ b ∈ rest, appliesOn date b = false := by
        intro b hb
        refine Bool.eq_false_iff.2 fun hb' => ?_
        have := EffectiveRange.overlaps_of_contains happlies hb'
        rw [hr b hb] at this
        cases this
      have hnil : rest.filter (appliesOn date) = [] :=
        List.filter_eq_nil_iff.2 fun b hb => by simp [hout b hb]
      rw [List.filter_cons_of_pos happlies, hnil]
      rcases List.mem_cons.1 hrow with rfl | hmem
      · rfl
      · rw [hout row hmem] at hdate
        cases hdate
    · rw [List.filter_cons_of_neg happlies]
      rcases List.mem_cons.1 hrow with rfl | hmem
      · exact absurd hdate happlies
      · exact ih hrest hmem

theorem length_filter_appliesOn_le (h : DisjointRanges rows) :
    (rows.filter (appliesOn date)).length ≤ 1 := by
  cases hfilter : rows.filter (appliesOn date) with
  | nil => exact Nat.zero_le 1
  | cons row rest =>
    obtain ⟨hrow, hdate⟩ := List.mem_filter.1 (hfilter ▸ List.mem_cons_self)
    rw [← hfilter, filter_appliesOn_eq h hrow hdate]
    exact Nat.le_refl 1

end

end MoveRating
