import MoveRating.Proofs.Reordering

/-!
# The row in effect

How a row is selected by date is told by the places of the list at which a row applies. Ranges may
overlap, be empty or end before they begin, and equal rows at two places count twice.

* `AppliesAt` : the row at a place applies on the date.
* `filter_eq_singleton_iff`, `filter_eq_nil_iff` and `two_le_length_filter_iff` : the rows that
  apply, by their places.
* `SelectionVerdict` says which end goes with which places.
* `selectEffective_verdict` : the selection keeps it, and is the same for the rows in any order.
-/

namespace MoveRating

variable {ρ : Type} [EffectiveDated ρ]

/-- At this place of the list stands a row whose range contains the date. -/
def AppliesAt (rows : List ρ) (date : Date) (i : Nat) : Prop :=
  ∃ row, rows[i]? = some row ∧ (EffectiveDated.effective row).contains date = true

/-- What the selection of a row by date comes to. -/
structure SelectionVerdict (rows : List ρ) (table : TariffTable) (key : String) (date : Date)
    (outcome : Except RatingError ρ) : Prop where
  /-- A row is selected if it stands at the only place at which a row applies. -/
  selected : ∀ row, outcome = .ok row ↔
    ∃ i, rows[i]? = some row ∧ AppliesAt rows date i ∧ ∀ j, AppliesAt rows date j → j = i
  /-- There are no rows. -/
  noRow : ∀ table' key', outcome = .error (.noRow table' key') ↔
    rows = [] ∧ table' = table ∧ key' = key
  /-- There are rows, but none that applies. -/
  noRateForDate : ∀ table' key' date', outcome = .error (.noRateForDate table' key' date') ↔
    rows ≠ [] ∧ (∀ i, ¬AppliesAt rows date i) ∧ table' = table ∧ key' = key ∧ date' = date
  /-- Rows apply at two places at least. -/
  ambiguous : ∀ table' key' date', outcome = .error (.ambiguousRate table' key' date') ↔
    (∃ i j, i ≠ j ∧ AppliesAt rows date i ∧ AppliesAt rows date j) ∧
      table' = table ∧ key' = key ∧ date' = date

section

variable {rows : List ρ} {row : ρ} {date : Date} {i : Nat}

/-! ### Places -/

@[simp] theorem not_appliesAt_nil : ¬AppliesAt ([] : List ρ) date i := by simp [AppliesAt]

@[simp] theorem appliesAt_cons_zero :
    AppliesAt (row :: rows) date 0 ↔ appliesOn date row = true := by
  simp [AppliesAt, appliesOn]

@[simp] theorem appliesAt_cons_succ :
    AppliesAt (row :: rows) date (i + 1) ↔ AppliesAt rows date i := by
  simp [AppliesAt]

/-- Something holds of all places of a list if it holds of the first and of all later ones. -/
theorem forall_appliesAt_cons {P : Nat → Prop} :
    (∀ j, AppliesAt (row :: rows) date j → P j) ↔
      (appliesOn date row = true → P 0) ∧ ∀ j, AppliesAt rows date j → P (j + 1) := by
  rw [← Nat.and_forall_add_one]
  simp

/-! ### The rows that apply -/

theorem filter_eq_nil_iff :
    rows.filter (appliesOn date) = [] ↔ ∀ i, ¬AppliesAt rows date i := by
  induction rows with
  | nil => simp
  | cons row rows ih =>
    rw [← Nat.and_forall_add_one]
    by_cases h : appliesOn date row = true
    · simp [h]
    · simp [h, ih]

/-- One row is left if it stands at the only place at which a row applies. -/
theorem filter_eq_singleton_iff :
    rows.filter (appliesOn date) = [row] ↔
      ∃ i, rows[i]? = some row ∧ AppliesAt rows date i ∧ ∀ j, AppliesAt rows date j → j = i := by
  induction rows with
  | nil => simp
  | cons first rows ih =>
    rw [← Nat.or_exists_add_one]
    by_cases h : appliesOn date first = true
    · -- the first row applies, so no other one may
      rw [List.filter_cons_of_pos h, List.cons.injEq, filter_eq_nil_iff]
      simp [h, forall_appliesAt_cons]
    · rw [List.filter_cons_of_neg h, ih]
      simp [h, forall_appliesAt_cons]

theorem two_le_length_filter_iff :
    2 ≤ (rows.filter (appliesOn date)).length ↔
      ∃ i j, i ≠ j ∧ AppliesAt rows date i ∧ AppliesAt rows date j := by
  cases hrows : rows.filter (appliesOn date) with
  | nil => simp [filter_eq_nil_iff.1 hrows]
  | cons row others =>
    cases others with
    | nil =>
      obtain ⟨i, -, -, hsole⟩ := filter_eq_singleton_iff.1 hrows
      refine iff_of_false (by simp) ?_
      rintro ⟨j, k, hne, hj, hk⟩
      exact hne ((hsole j hj).trans (hsole k hk).symm)
    | cons other others =>
      refine iff_of_true (by simp) ?_
      have hsome : ∃ i, AppliesAt rows date i := by
        by_contra hnone
        rw [filter_eq_nil_iff.2 (not_exists.1 hnone)] at hrows
        cases hrows
      obtain ⟨i, hi⟩ := hsome
      obtain ⟨row', hrow', -⟩ := id hi
      -- were it the only place, one row would be left
      by_contra hnone
      have hsole : ∀ j, AppliesAt rows date j → j = i := fun j hj => by
        by_contra hne
        exact hnone ⟨j, i, hne, hj, hi⟩
      rw [filter_eq_singleton_iff.2 ⟨i, hrow', hi, hsole⟩] at hrows
      cases hrows

/-! ### Refusals -/

section

variable {table table' : TariffTable} {key key' : String} {date' : Date}

theorem selectEffective_eq_noRow_iff :
    selectEffective rows table key date = .error (.noRow table' key') ↔
      rows = [] ∧ table' = table ∧ key' = key := by
  unfold selectEffective
  split
  · next row hrow =>
    have hne : rows ≠ [] := by
      rintro rfl
      cases hrow
    simp [hne]
  · cases rows <;> simp [eq_comm]
  · next hsole hnil =>
    have hne : rows ≠ [] := by
      rintro rfl
      exact hnil rfl
    simp [hne]

theorem selectEffective_eq_noRateForDate_iff :
    selectEffective rows table key date = .error (.noRateForDate table' key' date') ↔
      rows ≠ [] ∧ rows.filter (appliesOn date) = [] ∧
        table' = table ∧ key' = key ∧ date' = date := by
  unfold selectEffective
  split
  · next row hrow => simp [hrow]
  · next hnil => cases rows <;> simp [hnil, eq_comm]
  · next hsole hnil => exact iff_of_false nofun fun h => hnil h.2.1

theorem selectEffective_eq_ambiguousRate_iff :
    selectEffective rows table key date = .error (.ambiguousRate table' key' date') ↔
      2 ≤ (rows.filter (appliesOn date)).length ∧
        table' = table ∧ key' = key ∧ date' = date := by
  constructor
  · intro h
    have hlength : ¬(rows.filter (appliesOn date)).length ≤ 1 := fun hle =>
      selectEffective_ne_ambiguous hle h
    rw [selectEffective_of_two_le (Nat.not_le.1 hlength)] at h
    cases h
    exact ⟨Nat.not_le.1 hlength, rfl, rfl, rfl⟩
  · rintro ⟨hlength, rfl, rfl, rfl⟩
    exact selectEffective_of_two_le hlength

end

end

/-! ### The selection -/

/-- A row is selected just if it is the only one that applies, by its place. Without rows, without
one on the date and with several the selection is refused, each time for its own reason. The order
of the rows does not matter. -/
theorem selectEffective_verdict (rows : List ρ) (table : TariffTable) (key : String)
    (date : Date) :
    SelectionVerdict rows table key date (selectEffective rows table key date) ∧
      ∀ rows', rows.Perm rows' →
        selectEffective rows' table key date = selectEffective rows table key date := by
  refine ⟨⟨fun row => ?_, fun table' key' => ?_, fun table' key' date' => ?_,
    fun table' key' date' => ?_⟩, fun rows' h => (selectEffective_perm h table key date).symm⟩
  · exact selectEffective_eq_ok_iff.trans filter_eq_singleton_iff
  · exact selectEffective_eq_noRow_iff
  · rw [selectEffective_eq_noRateForDate_iff, filter_eq_nil_iff]
  · rw [selectEffective_eq_ambiguousRate_iff, two_le_length_filter_iff]

/-- The discounts of the sample move in a range that ends before it begins. -/
def RouteDiscountRate.backwards : RouteDiscountRate :=
  { RateSheet.sample.discount with
    effective := ⟨EffectiveRange.sample.upper, EffectiveRange.sample.lower⟩ }

/-- One row entered twice is in doubt, in either order and beside a row that never applies. -/
theorem selectEffective_verdict_twice :
    [RateSheet.sample.discount, .backwards, RateSheet.sample.discount].Perm
        [.backwards, RateSheet.sample.discount, RateSheet.sample.discount] ∧
      selectEffective [.backwards, RateSheet.sample.discount, RateSheet.sample.discount] .discount
          "US10 -> region 2" ⟨2018, 6, 1, by decide⟩ =
        .error (.ambiguousRate .discount "US10 -> region 2" ⟨2018, 6, 1, by decide⟩) := by
  have hperm : [RateSheet.sample.discount, .backwards, RateSheet.sample.discount].Perm
      [.backwards, RateSheet.sample.discount, RateSheet.sample.discount] := .swap _ _ _
  obtain ⟨hverdict, hany⟩ := selectEffective_verdict
    [RateSheet.sample.discount, .backwards, RateSheet.sample.discount] .discount "US10 -> region 2"
    ⟨2018, 6, 1, by decide⟩
  refine ⟨hperm, (hany _ hperm).trans ((hverdict.ambiguous _ _ _).2 ⟨?_, rfl, rfl, rfl⟩)⟩
  exact ⟨0, 2, by decide, ⟨_, rfl, by decide⟩, ⟨_, rfl, by decide⟩⟩

end MoveRating
