import MoveRating.Proofs.Loading
import MoveRating.Proofs.Operation
import MoveRating.Proofs.Rating

/-!
# Resolution on loaded tariffs

A tariff that was loaded finds each row of its files on exactly the dates in its range, and is never
in doubt between two of them.

* `Tables.ResolvedBy` says what the two look-ups by date answer for the rows of the tables.
* `Directory.resolvedBy_of_load`: a loaded tariff answers so, refuses no operation for an ambiguous
  rate, and resolves no discount that is out of bounds.
-/

namespace MoveRating

/-- The tariff answers look-ups by date with the rows of the tables. -/
structure Tables.ResolvedBy (tables : Tables) (t : Tariff) : Prop where
  /-- The rates of a service area, on a date in the range of a row. -/
  serviceArea : ∀ r ∈ tables.serviceAreas, ∀ date, r.effective.lower ≤ date →
    date < r.effective.upper → ∀ zip3 row, t.zip3? zip3 = some row →
    row.serviceArea = r.serviceArea → t.serviceAreaFor zip3 date = .ok r
  /-- The rates of a service area, on a date in the range of no row. -/
  noRateForDate : ∀ zip3 row, t.zip3? zip3 = some row →
    (∃ r ∈ tables.serviceAreas, r.serviceArea = row.serviceArea) →
    ∀ date, (∀ r ∈ tables.serviceAreas, r.serviceArea = row.serviceArea →
      ¬(r.effective.lower ≤ date ∧ date < r.effective.upper)) →
    t.serviceAreaFor zip3 date =
      .error (.noRateForDate .serviceArea (Numeral.text row.serviceArea.toNat) date)
  /-- The rates of a service area without rows. -/
  noServiceArea : ∀ zip3 row, t.zip3? zip3 = some row →
    (∀ r ∈ tables.serviceAreas, r.serviceArea ≠ row.serviceArea) → ∀ date,
    t.serviceAreaFor zip3 date =
      .error (.noRow .serviceArea (Numeral.text row.serviceArea.toNat))
  /-- The discounts of a route, on a date in the range of a row. -/
  discount : ∀ r ∈ tables.discounts, ∀ date, r.effective.lower ≤ date →
    date < r.effective.upper → ∀ origin destination originRow destinationRow,
    t.zip3? (zip3Of origin) = some originRow → originRow.rateArea = r.originRateArea →
    t.zip3? (zip3Of destination) = some destinationRow →
    destinationRow.region = r.destinationRegion →
    t.resolveDiscount origin destination date = .ok ⟨⟨r.linehaulRate⟩, ⟨r.sitRate⟩⟩
  /-- The discounts of a route, on a date in the range of no row. -/
  noDiscount : ∀ origin destination originRow destinationRow,
    t.zip3? (zip3Of origin) = some originRow → t.zip3? (zip3Of destination) = some destinationRow →
    ∀ date, (∀ r ∈ tables.discounts, r.originRateArea = originRow.rateArea →
      r.destinationRegion = destinationRow.region →
      ¬(r.effective.lower ≤ date ∧ date < r.effective.upper)) →
    t.resolveDiscount origin destination date =
      .error (.noDiscount (zip3Of origin) (zip3Of destination) date)

namespace Tables

variable {tables : Tables}

theorem serviceAreaFor_toTariff {zip3 : UInt32} {row : Zip3}
    (hzip3 : tables.toTariff.zip3? zip3 = some row) (date : Date) :
    tables.toTariff.serviceAreaFor zip3 date =
      selectEffective (tables.serviceAreas.filter (·.serviceArea = row.serviceArea)) .serviceArea
        (Numeral.text row.serviceArea.toNat) date := by
  rw [Tariff.serviceAreaFor_eq_of_zip3? hzip3, serviceAreaRates_toTariff]

/-- The filter of a table by key, if no row under the key applies. -/
theorem appliesOn_eq_false {ρ κ : Type} [EffectiveDated ρ] [DecidableEq κ] {rows : List ρ}
    {key : ρ → κ} {k : κ} {date : Date}
    (h : ∀ r ∈ rows, key r = k → ¬((EffectiveDated.effective r).lower ≤ date ∧
      date < (EffectiveDated.effective r).upper)) :
    ∀ r ∈ rows.filter (key · = k), appliesOn date r = false := by
  intro r hr
  obtain ⟨hmem, hkey⟩ := List.mem_filter.1 hr
  refine Bool.eq_false_iff.2 fun happlies => ?_
  exact h r hmem (of_decide_eq_true hkey) (EffectiveRange.contains_iff.1 happlies)

theorem resolveDiscount_toTariff {origin destination : UInt32} {originRow destinationRow : Zip3}
    (ho : tables.toTariff.zip3? (zip3Of origin) = some originRow)
    (hd : tables.toTariff.zip3? (zip3Of destination) = some destinationRow) (date : Date) :
    tables.toTariff.resolveDiscount origin destination date =
      ((selectEffective
        (tables.discounts.filter (·.route = (originRow.rateArea, destinationRow.region)))
        .discount (originRow.rateArea ++ " -> region " ++ Numeral.text destinationRow.region.toNat)
        date).mapError (Tariff.missingDiscount (zip3Of origin) (zip3Of destination) date)) >>=
        Tariff.rowDiscount := by
  rw [Tariff.resolveDiscount_eq_of_zip3? ho hd, routeDiscounts_toTariff]

/-- Accepted tables are resolved by their tariff. -/
theorem resolvedBy_toTariff (h : tables.violation? = none) :
    tables.ResolvedBy tables.toTariff where
  serviceArea := by
    intro r hr date hlower hupper zip3 row hzip3 harea
    rw [serviceAreaFor_toTariff hzip3, selectEffective_eq_ok_iff]
    refine filter_appliesOn_eq (disjointRanges_serviceAreas h row.serviceArea) ?_
      (EffectiveRange.contains_iff.2 ⟨hlower, hupper⟩)
    exact List.mem_filter.2 ⟨hr, decide_eq_true harea.symm⟩
  noRateForDate := by
    intro zip3 row hzip3 hsome date hnone
    obtain ⟨r, hr, harea⟩ := hsome
    have hmem : r ∈ tables.serviceAreas.filter (·.serviceArea = row.serviceArea) :=
      List.mem_filter.2 ⟨hr, decide_eq_true harea⟩
    have hout := appliesOn_eq_false (k := row.serviceArea) hnone
    rw [serviceAreaFor_toTariff hzip3, selectEffective_of_forall_not hout, if_neg]
    -- there are rows of the area, though none applies
    exact fun hempty => List.ne_nil_of_mem hmem (List.isEmpty_iff.1 hempty)
  noServiceArea := by
    intro zip3 row hzip3 hnone date
    have hnil : tables.serviceAreas.filter (·.serviceArea = row.serviceArea) = [] :=
      List.filter_eq_nil_iff.2 fun r hr => by simp [hnone r hr]
    rw [serviceAreaFor_toTariff hzip3, hnil]
    rfl
  discount := by
    intro r hr date hlower hupper origin destination originRow destinationRow ho harea hd hregion
    have hselect := filter_appliesOn_eq
      (disjointRanges_discounts h originRow.rateArea destinationRow.region)
      (List.mem_filter.2 ⟨hr, decide_eq_true (by rw [harea, hregion]; rfl)⟩)
      (EffectiveRange.contains_iff.2 ⟨hlower, hupper⟩)
    obtain ⟨-, -, hunit, -, -⟩ := violation?_eq_none_iff.1 h
    obtain ⟨hlinehaul, hsit⟩ := hunit r hr
    rw [resolveDiscount_toTariff ho hd, selectEffective_eq_ok_iff.2 hselect]
    exact Tariff.rowDiscount_eq_ok_iff.2 ⟨hlinehaul, hsit, rfl⟩
  noDiscount := by
    intro origin destination originRow destinationRow ho hd date hnone
    have hroute : ∀ r ∈ tables.discounts, r.route = (originRow.rateArea, destinationRow.region) →
        ¬(r.effective.lower ≤ date ∧ date < r.effective.upper) := fun r hr hkey =>
      hnone r hr (Prod.mk.inj hkey).1 (Prod.mk.inj hkey).2
    have hout := appliesOn_eq_false (k := (originRow.rateArea, destinationRow.region)) hroute
    rw [resolveDiscount_toTariff ho hd, selectEffective_of_forall_not hout]
    split <;> rfl

/-! ### What is never refused -/

/-- The rates of a service area are never ambiguous. -/
theorem serviceAreaFor_ne_ambiguous (h : tables.violation? = none) (zip3 : UInt32) (date : Date)
    (table : TariffTable) (key : String) (date' : Date) :
    tables.toTariff.serviceAreaFor zip3 date ≠ .error (.ambiguousRate table key date') := by
  cases hzip3 : tables.toTariff.zip3? zip3 with
  | none =>
    unfold Tariff.serviceAreaFor Tariff.zip3Row
    rw [hzip3]
    nofun
  | some row =>
    rw [serviceAreaFor_toTariff hzip3]
    exact selectEffective_ne_ambiguous
      (length_filter_appliesOn_le (disjointRanges_serviceAreas h row.serviceArea))

/-- The discounts of a route are refused only for want of a row. -/
theorem resolveDiscount_error_cases (h : tables.violation? = none) {origin destination : UInt32}
    {date : Date} {why : RatingError}
    (herr : tables.toTariff.resolveDiscount origin destination date = .error why) :
    (∃ key, why = .noRow .zip3 key) ∨
      why = .noDiscount (zip3Of origin) (zip3Of destination) date := by
  cases ho : tables.toTariff.zip3? (zip3Of origin) with
  | none =>
    rw [Tariff.resolveDiscount_of_unknown_origin ho] at herr
    exact .inl ⟨_, (Except.error.inj herr).symm⟩
  | some originRow =>
    cases hd : tables.toTariff.zip3? (zip3Of destination) with
    | none =>
      rw [Tariff.resolveDiscount_of_unknown_destination ho hd] at herr
      exact .inl ⟨_, (Except.error.inj herr).symm⟩
    | some destinationRow =>
      refine .inr ?_
      rw [resolveDiscount_toTariff ho hd] at herr
      have hdisjoint := disjointRanges_discounts h originRow.rateArea destinationRow.region
      rcases bind_eq_error_iff.1 herr with hselect | ⟨r, hselect, hrow⟩
      · obtain ⟨why', hwhy, rfl⟩ := mapError_eq_error_iff.1 hselect
        rcases selectEffective_error_cases hwhy with rfl | rfl | rfl
        · rfl
        · rfl
        · exact absurd hwhy (selectEffective_ne_ambiguous (length_filter_appliesOn_le hdisjoint))
      · -- the row that is selected stands in the table, so its discounts are in bounds
        rw [mapError_eq_ok_iff, selectEffective_eq_ok_iff] at hselect
        have hmem : r ∈ tables.discounts :=
          List.mem_of_mem_filter (List.mem_of_mem_filter (hselect ▸ List.mem_singleton_self r))
        obtain ⟨hlinehaul, hsit⟩ := (violation?_eq_none_iff.1 h).2.2.1 r hmem
        rw [Tariff.rowDiscount_eq_ok_iff.2 ⟨hlinehaul, hsit, rfl⟩] at hrow
        cases hrow

/-- The refusals of the tariff of accepted tables. -/
theorem refusals_toTariff (h : tables.violation? = none) :
    tables.toTariff.Refusals fun why => ∀ table key date, why ≠ .ambiguousRate table key date where
  noRow := by
    intro table key table' key' date h
    cases h
  invalidInput := by
    intro field why table key date h
    cases h
  serviceArea := by
    rintro zip3 date why hwhy table key date' rfl
    exact serviceAreaFor_ne_ambiguous h zip3 date table key date' hwhy
  discount := by
    rintro origin destination date why hwhy table key date' rfl
    rcases resolveDiscount_error_cases h hwhy with ⟨_, hcase⟩ | hcase
    · cases hcase
    · cases hcase

end Tables

/-- A tariff that is loaded answers every look-up by date with the rows of its files, is never in
doubt between two of them, and has no discount out of bounds. -/
theorem Directory.resolvedBy_of_load (d : Directory) (l : LoadedTariff) (h : d.load = .ok l) :
    ∃ tables, d.read = .ok (l.metadata, tables) ∧ tables.ResolvedBy l.tariff ∧
      (∀ {α : Type} (op : Operation α) (table : TariffTable) (key : String) (date : Date),
        l.tariff.perform op ≠ .error (.refused (.ambiguousRate table key date))) ∧
      ∀ (origin destination : UInt32) (date : Date) (field why : String),
        l.tariff.resolveDiscount origin destination date ≠ .error (.invalidInput field why) := by
  obtain ⟨tables, hread, hnone, htariff⟩ := Directory.load_eq_ok_iff.1 h
  rw [htariff]
  refine ⟨tables, hread, Tables.resolvedBy_toTariff hnone, ?_, ?_⟩
  · intro α op table key date hop
    exact Tariff.refusesOnly_perform (Tables.refusals_toTariff hnone) op _ hop table key date rfl
  · intro origin destination date field why hwhy
    rcases Tables.resolveDiscount_error_cases hnone hwhy with ⟨_, hcase⟩ | hcase
    · cases hcase
    · cases hcase

/-! ### A directory of one area -/

/-- The directory with a text in each file. -/
def Directory.ofTexts (texts : TariffFile → String) : Directory := fun file =>
  some (texts file).toUTF8

theorem Directory.text_ofTexts (texts : TariffFile → String) (file : TariffFile) :
    (ofTexts texts).text file = .ok (texts file) := by
  have hutf8 : String.fromUTF8? (texts file).toUTF8 = some (texts file) :=
    dif_pos (texts file).isValidUTF8
  unfold text ofTexts
  rw [Option.bind_some, hutf8]

theorem Directory.contents_ofTexts {α : Type} {texts : TariffFile → String} {file : TariffFile}
    {parse : String → Except Yaml.Problem α} {a : α}
    (h : (parse (texts file)).toOption = some a) :
    (ofTexts texts).contents file parse = .ok a := by
  refine bind_eq_ok_iff.2 ⟨texts file, text_ofTexts texts file, ?_⟩
  cases hparse : parse (texts file) with
  | error problem =>
    rw [hparse] at h
    cases h
  | ok a' =>
    rw [hparse] at h
    cases h
    rfl

/-- The texts of a small tariff. -/
def Directory.sampleText : TariffFile → String
  | .metadata => "code: A\nname: B\nversion: C\nsource: D\n"
  | .table .zip3 =>
    "zip3s:\n- zip3: 10\n  basepoint_city: A\n  state: B\n  service_area: 1\n  rate_area: C\n" ++
      "  region: 2\n"
  | .table .distance => "distances:\n- origin_zip3: 10\n  destination_zip3: 10\n  miles: 640\n"
  | .table .serviceArea =>
    "service_areas:\n- service_area: 1\n  name: A\n  linehaul_factor: 5\n" ++
      "  service_charge_cents: 6\n  sit_first_day_rate_cents: 7\n" ++
      "  sit_additional_day_rate_cents: 8\n  sit_pickup_delivery_rate_cents: 9\n" ++
      "  effective_date_lower: 2018-01-01\n  effective_date_upper: 2019-01-01\n"
  | .table .baseLinehaul => "rates: []\n"
  | .table .shorthaul => "rates: []\n"
  | .table .discount =>
    "discounts:\n- origin_rate_area: C\n  destination_region: 2\n  linehaul_rate: 0.5\n" ++
      "  sit_rate: 0.4\n  effective_date_lower: 2018-01-01\n  effective_date_upper: 2019-01-01\n"

/-- The directory of these texts. -/
def Directory.sample : Directory := ofTexts sampleText

/-- The tables that these texts hold. -/
def Tables.sample : Tables where
  zip3s := [⟨10, "A", "B", 1, "C", 2⟩]
  distances := [⟨10, 10, 640⟩]
  serviceAreas := [⟨1, "A", ⟨5⟩, ⟨6⟩, ⟨7⟩, ⟨8⟩, ⟨9⟩, .sample⟩]
  baseLinehaul := []
  shorthaul := []
  discounts := [{ RateSheet.sample.discount with originRateArea := "C" }]

theorem Directory.read_sample :
    Directory.sample.read = .ok (⟨"A", "B", "C", "D"⟩, Tables.sample) := by
  unfold read tableRows
  simp only [bind_eq_ok_iff, pure_eq_ok_iff]
  exact ⟨_, contents_ofTexts (by decide +kernel), _, contents_ofTexts (by decide +kernel),
    _, contents_ofTexts (by decide +kernel), _, contents_ofTexts (by decide +kernel),
    _, contents_ofTexts (by decide +kernel), _, contents_ofTexts (by decide +kernel),
    _, contents_ofTexts (by decide +kernel), rfl⟩

theorem Directory.load_sample :
    Directory.sample.load = .ok ⟨⟨"A", "B", "C", "D"⟩, Tables.sample.toTariff⟩ :=
  load_eq_ok_iff.2 ⟨Tables.sample, read_sample, by decide +kernel, rfl⟩

theorem Directory.resolvedBy_sample :
    Directory.sample.load = .ok ⟨⟨"A", "B", "C", "D"⟩, Tables.sample.toTariff⟩ ∧
      ∃ r ∈ Tables.sample.serviceAreas,
        Tables.sample.toTariff.serviceAreaFor 10 ⟨2018, 12, 31, by decide⟩ = .ok r := by
  obtain ⟨tables, hread, hresolved, -, -⟩ := Directory.resolvedBy_of_load .sample _ load_sample
  rw [read_sample] at hread
  obtain rfl := (Prod.mk.inj (Except.ok.inj hread)).2
  refine ⟨load_sample, _, List.mem_cons_self, ?_⟩
  exact hresolved.serviceArea _ List.mem_cons_self _ (by decide) (by decide) 10 _ rfl rfl

end MoveRating
