import MoveRating.Proofs.Acceptance
import MoveRating.Proofs.Comparison
import MoveRating.Proofs.Resolution

/-!
# Tariffs in another order

The order of the rows in the files of a tariff does not count.

* `Tables.Reordered`: two sets of tables hold the same rows, each table in any order. They keep the
  same rules (`Tables.Reordered.kept_iff`).
* `Tables.Distinct`: no two rows compete by their place alone. Then the tariffs of reordered tables
  answer all look-ups alike (`Tables.Reordered.lookups`). Rows that are chosen by date may compete:
  a doubt between them is refused in any order (`selectEffective_perm`).
* `Directory.load_reordered`: of two directories whose files differ in the order of the rows, both
  are loaded or none, and then all operations end alike.
-/

namespace MoveRating

/-! ### Rows in another order -/

section

variable {α : Type} {rows rows' : List α} {p : α → Bool}

/-- The rows of a kind keep their order if there are no two of them. -/
theorem filter_eq_of_perm (h : rows.Perm rows')
    (hp : rows.Pairwise fun a b => ¬(p a = true ∧ p b = true)) :
    rows.filter p = rows'.filter p := by
  have hpair := hp.filter p
  have hpair' := ((h.filter p).pairwise_iff fun hab hba => hab hba.symm).1 hpair
  refine (h.filter p).eq_of_pairwise (fun a b ha hb hab _ => ?_) hpair hpair'
  exact absurd ⟨(List.mem_filter.1 ha).2, (List.mem_filter.1 hb).2⟩ hab

/-- The first row of a kind is the same in any order if there are no two of them. -/
theorem find?_eq_of_perm (h : rows.Perm rows')
    (hp : rows.Pairwise fun a b => ¬(p a = true ∧ p b = true)) : rows.find? p = rows'.find? p := by
  rw [← List.head?_filter, ← List.head?_filter, filter_eq_of_perm h hp]

/-- A key that no two rows share. -/
theorem filter_key_eq_of_perm {κ : Type} [DecidableEq κ] {key : α → κ} (h : rows.Perm rows')
    (hkey : rows.Pairwise fun a b => key a ≠ key b) (k : κ) :
    rows.filter (key · = k) = rows'.filter (key · = k) := by
  refine filter_eq_of_perm h (hkey.imp fun hab hk => ?_)
  exact hab ((of_decide_eq_true hk.1).trans (of_decide_eq_true hk.2).symm)

end

/-- The selection by date takes the rows in any order, whether one applies, none or several. -/
theorem selectEffective_perm {ρ : Type} [EffectiveDated ρ] {rows rows' : List ρ}
    (h : rows.Perm rows') (table : TariffTable) (key : String) (date : Date) :
    selectEffective rows table key date = selectEffective rows' table key date := by
  have hperm := h.filter (appliesOn date)
  unfold selectEffective
  cases hrows : rows.filter (appliesOn date) with
  | nil =>
    rw [hrows] at hperm
    rw [List.nil_perm.1 hperm, h.isEmpty_eq]
  | cons row others =>
    cases others with
    | nil =>
      rw [hrows] at hperm
      rw [List.perm_singleton.1 hperm.symm]
    | cons other others =>
      -- several rows apply in the other order too
      rw [hrows] at hperm
      cases hrows' : rows'.filter (appliesOn date) with
      | nil => simp [hrows'] at hperm
      | cons row' others' =>
        cases others' with
        | nil => simp [hrows'] at hperm
        | cons other' others' => rfl

/-! ### Tables in another order -/

namespace Tables

/-- The same rows in each table. -/
structure Reordered (tables tables' : Tables) : Prop where
  zip3s : tables.zip3s.Perm tables'.zip3s
  distances : tables.distances.Perm tables'.distances
  serviceAreas : tables.serviceAreas.Perm tables'.serviceAreas
  baseLinehaul : tables.baseLinehaul.Perm tables'.baseLinehaul
  shorthaul : tables.shorthaul.Perm tables'.shorthaul
  discounts : tables.discounts.Perm tables'.discounts

/-- No two rows of which the place decides which one counts. -/
structure Distinct (tables : Tables) : Prop where
  zip3s : tables.zip3s.Pairwise fun a b => a.zip3 ≠ b.zip3
  distances : tables.distances.Pairwise fun a b => a.areas ≠ b.areas
  baseLinehaul : tables.baseLinehaul.Pairwise fun a b => ∀ miles cwt,
    ¬(a.covers miles cwt = true ∧ b.covers miles cwt = true)
  shorthaul : tables.shorthaul.Pairwise fun a b => ∀ cwtMiles,
    ¬(a.covers cwtMiles = true ∧ b.covers cwtMiles = true)

namespace Reordered

variable {tables tables' : Tables} (h : tables.Reordered tables')

include h

/-- Each rule is about the rows, not about their places. -/
theorem kept_iff (rule : Rule) : rule.Kept tables ↔ rule.Kept tables' := by
  cases rule with
  | baseLinehaul => simp only [Rule.Kept, h.baseLinehaul.mem_iff]
  | shorthaul => simp only [Rule.Kept, h.shorthaul.mem_iff]
  | discountRates => simp only [Rule.Kept, h.discounts.mem_iff]
  | serviceAreaRanges => exact keepsRanges_perm h.serviceAreas
  | discountRanges => exact keepsRanges_perm h.discounts

theorem serviceAreaRates (code : UInt32) :
    (tables.toTariff.serviceAreaRates code).Perm (tables'.toTariff.serviceAreaRates code) := by
  rw [serviceAreaRates_toTariff, serviceAreaRates_toTariff]
  exact h.serviceAreas.filter _

theorem routeDiscounts (area : String) (region : UInt32) :
    (tables.toTariff.routeDiscounts area region).Perm
      (tables'.toTariff.routeDiscounts area region) := by
  rw [routeDiscounts_toTariff, routeDiscounts_toTariff]
  exact h.discounts.filter _

variable (hd : tables.Distinct)

include hd

theorem zip3Row (zip3 : UInt32) : tables.toTariff.zip3Row zip3 = tables'.toTariff.zip3Row zip3 := by
  unfold Tariff.zip3Row
  rw [zip3?_toTariff, zip3?_toTariff, filter_key_eq_of_perm h.zip3s hd.zip3s]

theorem milesBetween (origin destination : UInt32) :
    tables.toTariff.milesBetween origin destination =
      tables'.toTariff.milesBetween origin destination := by
  unfold Tariff.milesBetween
  rw [distance?_toTariff, distance?_toTariff, filter_key_eq_of_perm h.distances hd.distances]

theorem serviceAreaFor (zip3 : UInt32) (date : Date) :
    tables.toTariff.serviceAreaFor zip3 date = tables'.toTariff.serviceAreaFor zip3 date := by
  unfold Tariff.serviceAreaFor
  rw [h.zip3Row hd]
  refine congrArg _ (funext fun row => ?_)
  exact selectEffective_perm (h.serviceAreaRates row.serviceArea) _ _ _

theorem baseLinehaulCharge (mileage : UInt32) (cwt : Cwt) :
    tables.toTariff.baseLinehaulCharge mileage cwt =
      tables'.toTariff.baseLinehaulCharge mileage cwt := by
  unfold Tariff.baseLinehaulCharge
  rw [baseLinehaul_toTariff, baseLinehaul_toTariff,
    find?_eq_of_perm h.baseLinehaul (hd.baseLinehaul.imp fun hab => hab mileage cwt.val)]

theorem shorthaulCharge (mileage : UInt32) (cwt : Cwt) :
    tables.toTariff.shorthaulCharge mileage cwt = tables'.toTariff.shorthaulCharge mileage cwt := by
  unfold Tariff.shorthaulCharge
  refine congrArg _ (funext fun cwtMiles => ?_)
  dsimp only
  rw [shorthaul_toTariff, shorthaul_toTariff,
    find?_eq_of_perm h.shorthaul (hd.shorthaul.imp fun hab => hab cwtMiles)]

theorem resolveDiscount (origin destination : UInt32) (date : Date) :
    tables.toTariff.resolveDiscount origin destination date =
      tables'.toTariff.resolveDiscount origin destination date := by
  unfold Tariff.resolveDiscount
  rw [h.zip3Row hd, h.zip3Row hd]
  refine congrArg _ (funext fun originRow => congrArg _ (funext fun destinationRow => ?_))
  dsimp only
  rw [selectEffective_perm (h.routeDiscounts originRow.rateArea destinationRow.region)]

theorem lookups : Comparison.equal.Lookups tables.toTariff tables'.toTariff where
  zip3Row zip3 := congrArg liftM (h.zip3Row hd zip3)
  milesBetween origin destination := congrArg liftM (h.milesBetween hd origin destination)
  serviceAreaFor zip3 date := congrArg liftM (h.serviceAreaFor hd zip3 date)
  baseLinehaulCharge := h.baseLinehaulCharge hd
  shorthaulCharge := h.shorthaulCharge hd
  resolveDiscount origin destination date :=
    congrArg liftM (h.resolveDiscount hd origin destination date)

end Reordered

end Tables

/-! ### Files in another order -/

/-- The contents of a file are the same, up to the order of its rows. -/
def TariffFile.SameRows : (file : TariffFile) → file.Content → file.Content → Prop
  | .metadata, described, described' => described = described'
  | .table .zip3, rows, rows' => rows.Perm rows'
  | .table .distance, rows, rows' => rows.Perm rows'
  | .table .serviceArea, rows, rows' => rows.Perm rows'
  | .table .baseLinehaul, rows, rows' => rows.Perm rows'
  | .table .shorthaul, rows, rows' => rows.Perm rows'
  | .table .discount, rows, rows' => rows.Perm rows'

theorem TariffFile.SameRows.refl (file : TariffFile) (content : file.Content) :
    file.SameRows content content := by
  cases file with
  | metadata => rfl
  | table table => cases table <;> exact List.Perm.refl _

theorem TariffFile.SameRows.symm {file : TariffFile} {content content' : file.Content}
    (h : file.SameRows content content') : file.SameRows content' content := by
  cases file with
  | metadata => exact Eq.symm h
  | table table => cases table <;> exact List.Perm.symm h

namespace Directory

variable {d d' : Directory}

/-- Each file that can be read in one of the directories can be read in the other, with the same
rows in any order. -/
def Reordered (d d' : Directory) : Prop :=
  ∀ file, (¬d.Readable file ∧ ¬d'.Readable file) ∨
    ∃ content content', d.Reads file content ∧ d'.Reads file content' ∧
      file.SameRows content content'

namespace Reordered

theorem symm (h : d.Reordered d') : d'.Reordered d := by
  intro file
  rcases h file with ⟨hunread, hunread'⟩ | ⟨content, content', hreads, hreads', hsame⟩
  · exact .inl ⟨hunread', hunread⟩
  · exact .inr ⟨content', content, hreads', hreads, hsame.symm⟩

theorem exists_reads (h : d.Reordered d') {file : TariffFile} {content : file.Content}
    (hreads : d.Reads file content) :
    ∃ content', d'.Reads file content' ∧ file.SameRows content content' := by
  rcases h file with ⟨hunread, -⟩ | ⟨content₀, content', hreads₀, hreads', hsame⟩
  · exact absurd ⟨content, hreads⟩ hunread
  · obtain rfl := hreads.unique hreads₀
    exact ⟨content', hreads', hsame⟩

/-- What reordered directories hold. -/
theorem exists_holds (h : d.Reordered d') {metadata : TariffMetadata} {tables : Tables}
    (hholds : d.Holds metadata tables) :
    ∃ tables', d'.Holds metadata tables' ∧ tables.Reordered tables' := by
  obtain ⟨_, hmetadata, rfl⟩ := h.exists_reads hholds.metadata
  obtain ⟨zip3s, hzip3s, hpzip3s⟩ := h.exists_reads hholds.zip3s
  obtain ⟨distances, hdistances, hpdistances⟩ := h.exists_reads hholds.distances
  obtain ⟨serviceAreas, hserviceAreas, hpserviceAreas⟩ := h.exists_reads hholds.serviceAreas
  obtain ⟨baseLinehaul, hbaseLinehaul, hpbaseLinehaul⟩ := h.exists_reads hholds.baseLinehaul
  obtain ⟨shorthaul, hshorthaul, hpshorthaul⟩ := h.exists_reads hholds.shorthaul
  obtain ⟨discounts, hdiscounts, hpdiscounts⟩ := h.exists_reads hholds.discounts
  exact ⟨⟨zip3s, distances, serviceAreas, baseLinehaul, shorthaul, discounts⟩,
    ⟨hmetadata, hzip3s, hdistances, hserviceAreas, hbaseLinehaul, hshorthaul, hdiscounts⟩,
    ⟨hpzip3s, hpdistances, hpserviceAreas, hpbaseLinehaul, hpshorthaul, hpdiscounts⟩⟩

theorem exists_load (h : d.Reordered d') {l : LoadedTariff} (hl : d.load = .ok l) :
    ∃ l', d'.load = .ok l' := by
  obtain ⟨tables, hholds, hkept, -⟩ := load_eq_ok_iff_kept.1 hl
  obtain ⟨tables', hholds', hsame⟩ := h.exists_holds hholds
  exact ⟨⟨l.metadata, tables'.toTariff⟩, load_eq_ok_iff_kept.2
    ⟨tables', hholds', fun rule => (hsame.kept_iff rule).1 (hkept rule), rfl⟩⟩

end Reordered

/-- Of two directories whose files differ only in the order of their rows, both are loaded or none.
If no rows compete by their place, the two tariffs answer, refuse and overflow alike. -/
theorem load_reordered (d d' : Directory) (h : d.Reordered d')
    (hd : ∀ metadata tables, d.Holds metadata tables → tables.Distinct) :
    ((∃ l, d.load = .ok l) ↔ ∃ l', d'.load = .ok l') ∧
      ∀ l l', d.load = .ok l → d'.load = .ok l' → l.metadata = l'.metadata ∧
        ∀ {α : Type} (op : Operation α), l.tariff.perform op = l'.tariff.perform op := by
  refine ⟨⟨fun ⟨_, hl⟩ => h.exists_load hl, fun ⟨_, hl'⟩ => h.symm.exists_load hl'⟩, ?_⟩
  intro l l' hl hl'
  obtain ⟨tables, hholds, -, htariff⟩ := load_eq_ok_iff_kept.1 hl
  obtain ⟨tables', hholds', -, htariff'⟩ := load_eq_ok_iff_kept.1 hl'
  obtain ⟨tables₀, hholds₀, hsame⟩ := h.exists_holds hholds
  obtain ⟨hmetadata, rfl⟩ := hholds₀.unique hholds'
  refine ⟨hmetadata, fun op => ?_⟩
  rw [htariff, htariff']
  exact Comparison.rel_perform (hsame.lookups (hd _ _ hholds)) op

/-! ### Two brackets in either order -/

/-- The directory with another text in one file. -/
def withText (d : Directory) (file : TariffFile) (text : String) : Directory := fun file' =>
  if file' = file then some text.toUTF8 else d file'

theorem reads_withText {file : TariffFile} {text : String} {content : file.Content}
    (h : file.parse text = .ok content) : (d.withText file text).Reads file content :=
  ⟨text.toUTF8, text, if_pos rfl, dif_pos text.isValidUTF8, h⟩

theorem Reads.withText {file file' : TariffFile} {text : String} {content : file'.Content}
    (h : d.Reads file' content) (hne : file' ≠ file) :
    (d.withText file text).Reads file' content := h.congr (if_neg hne).symm

/-- Directories that differ in the order of the rows of one file. -/
theorem reordered_withText (d : Directory) {file : TariffFile} {text text' : String}
    {content content' : file.Content} (h : file.parse text = .ok content)
    (h' : file.parse text' = .ok content') (hsame : file.SameRows content content') :
    (d.withText file text).Reordered (d.withText file text') := by
  intro file'
  by_cases hfile : file' = file
  · subst hfile
    exact .inr ⟨content, content', reads_withText h, reads_withText h', hsame⟩
  · by_cases hread : d.Readable file'
    · obtain ⟨rows, hrows⟩ := hread
      exact .inr ⟨rows, rows, hrows.withText hfile, hrows.withText hfile, .refl file' rows⟩
    · have hunread : ∀ t, ¬(d.withText file t).Readable file' := by
        rintro t ⟨rows, hrows⟩
        exact hread ⟨rows, hrows.congr (if_neg hfile)⟩
      exact .inl ⟨hunread text, hunread text'⟩

/-- The sample directory with some shorthaul brackets. -/
def withBrackets (brackets : String) : Directory :=
  sample.withText (.table .shorthaul) ("rates:\n" ++ brackets)

theorem holds_withBrackets {brackets : String} {rows : List ShorthaulRate}
    (h : (TariffFile.table .shorthaul).parse ("rates:\n" ++ brackets) = .ok rows) :
    (withBrackets brackets).Holds ⟨"A", "B", "C", "D"⟩
      { Tables.sample with shorthaul := rows } := by
  have hsample := read_eq_ok_iff.1 read_sample
  exact {
    metadata := hsample.metadata.withText (by decide)
    zip3s := hsample.zip3s.withText (by decide)
    distances := hsample.distances.withText (by decide)
    serviceAreas := hsample.serviceAreas.withText (by decide)
    baseLinehaul := hsample.baseLinehaul.withText (by decide)
    shorthaul := reads_withText h
    discounts := hsample.discounts.withText (by decide) }

/-- The bracket of the lighter shipments, as a text. -/
def lightText : String := "- cwt_miles_lower: 0\n  cwt_miles_upper: 100\n  rate_cents: 5\n"

/-- The bracket of the heavier shipments, as a text. -/
def heavyText : String := "- cwt_miles_lower: 100\n  cwt_miles_upper: 20000\n  rate_cents: 7\n"

theorem parse_lightHeavy : (TariffFile.table .shorthaul).parse
    ("rates:\n" ++ (lightText ++ heavyText)) = .ok [⟨0, 100, ⟨5⟩⟩, ⟨100, 20000, ⟨7⟩⟩] := by
  decide +kernel

theorem parse_heavyLight : (TariffFile.table .shorthaul).parse
    ("rates:\n" ++ (heavyText ++ lightText)) = .ok [⟨100, 20000, ⟨7⟩⟩, ⟨0, 100, ⟨5⟩⟩] := by
  decide +kernel

/-- The sample tables with both brackets. -/
def lightHeavy : Tables := { Tables.sample with shorthaul := [⟨0, 100, ⟨5⟩⟩, ⟨100, 20000, ⟨7⟩⟩] }

theorem load_reordered_brackets : ∃ l l',
    (withBrackets (lightText ++ heavyText)).load = .ok l ∧
      (withBrackets (heavyText ++ lightText)).load = .ok l' ∧
      ∀ {α : Type} (op : Operation α), l.tariff.perform op = l'.tariff.perform op := by
  have hholds : (withBrackets (lightText ++ heavyText)).Holds ⟨"A", "B", "C", "D"⟩ lightHeavy :=
    holds_withBrackets parse_lightHeavy
  have hload : (withBrackets (lightText ++ heavyText)).load =
      .ok ⟨⟨"A", "B", "C", "D"⟩, lightHeavy.toTariff⟩ :=
    load_eq_ok_iff.2 ⟨lightHeavy, read_eq_ok_iff.2 hholds, by decide +kernel, rfl⟩
  have hdistinct : ∀ metadata tables,
      (withBrackets (lightText ++ heavyText)).Holds metadata tables → tables.Distinct := by
    intro metadata tables htables
    obtain ⟨-, rfl⟩ := hholds.unique htables
    refine ⟨List.pairwise_singleton _ _, List.pairwise_singleton _ _, .nil, ?_⟩
    refine List.pairwise_pair.2 fun cwtMiles hcovers => ?_
    -- the upper bound of the one bracket is the lower one of the other
    simp only [ShorthaulRate.covers, Bool.and_eq_true, decide_eq_true_eq] at hcovers
    exact absurd hcovers.1.2 (Int64.not_lt.2 hcovers.2.1)
  obtain ⟨haccepted, hanswers⟩ := load_reordered _ _
    (sample.reordered_withText parse_lightHeavy parse_heavyLight (List.Perm.swap _ _ _)) hdistinct
  obtain ⟨l', hl'⟩ := haccepted.1 ⟨_, hload⟩
  exact ⟨_, l', hload, hl', (hanswers _ _ hload hl').2⟩

end Directory

end MoveRating
