import MoveRating.Proofs.Contents
import MoveRating.Proofs.Deviation
import MoveRating.Proofs.Reading

/-!
# Which directories are loaded

The checks of a directory, whatever the order in which the groups of dated rows are gone through.

* `Directory.loadIn` loads a directory with the groups in some order; `Directory.load` takes them as
  they were added (`Directory.loadIn_asAdded`).
* A `Rule` is one of the five checks, and `Rule.Kept` says what it demands of the rows themselves,
  without groups. `Rule.violation?_eq_none_iff`: in any order of the groups the check passes just if
  this holds.
* `Directory.loadIn_verdict`: a directory is loaded just if its seven files are read and all rules
  kept. Else its first file that is not readable is reported, or the file of the first broken rule
  (`Directory.loadIn_fileNotFound_iff`, `Directory.loadIn_fileRejected_iff`).
-/

namespace MoveRating

/-! ### Rules -/

/-- An order in which the groups of rows under one key are gone through. -/
structure GroupOrder where
  /-- The groups of a service area each. -/
  serviceAreas : List (UInt32 × List ServiceAreaRate) → List (UInt32 × List ServiceAreaRate)
  /-- The groups of a route each. -/
  discounts : List ((String × UInt32) × List RouteDiscountRate) →
    List ((String × UInt32) × List RouteDiscountRate)
  /-- No service area is left out. -/
  serviceAreas_perm : ∀ groups, (serviceAreas groups).Perm groups
  /-- No route is left out. -/
  discounts_perm : ∀ groups, (discounts groups).Perm groups

/-- The order in which the keys first came. -/
def GroupOrder.asAdded : GroupOrder := ⟨id, id, .refl, .refl⟩

/-- The fault of the first group at fault. -/
def groupFault? {κ ρ : Type} [EffectiveDated ρ] (report : κ → RangeFault → Violation)
    (groups : List (κ × List ρ)) : Option Violation :=
  groups.findSome? fun group =>
    (rangeFault? (group.2.map EffectiveDated.effective)).map (report group.1)

/-- What the rows of a tariff are checked for. -/
inductive Rule where
  /-- No longhaul bracket is empty. -/
  | baseLinehaul
  /-- No shorthaul bracket is empty. -/
  | shorthaul
  /-- All discounts lie between zero and one. -/
  | discountRates
  /-- The rates of a service area apply on some days, each on days of its own. -/
  | serviceAreaRanges
  /-- The discounts of a route apply on some days, each on days of its own. -/
  | discountRanges
deriving DecidableEq, Repr

namespace Rule

/-- All rules, in the order in which they are checked. -/
def all : List Rule := [baseLinehaul, shorthaul, discountRates, serviceAreaRanges, discountRanges]

/-- The table that a rule is about. -/
def table : Rule → TariffTable
  | baseLinehaul => .baseLinehaul
  | shorthaul => .shorthaul
  | discountRates | discountRanges => .discount
  | serviceAreaRanges => .serviceArea

/-- The first violation of a rule. -/
def violation? (order : GroupOrder) (tables : Tables) : Rule → Option Violation
  | baseLinehaul => (tables.baseLinehaul.find? (·.isEmpty)).map .emptyBracket
  | shorthaul => (tables.shorthaul.find? (·.isEmpty)).map .emptyShorthaulBracket
  | discountRates => (tables.discounts.findSome? (·.refusal?)).map .discountRate
  | serviceAreaRanges =>
    groupFault? .serviceArea (order.serviceAreas tables.toTariff.serviceAreas.entries)
  | discountRanges =>
    groupFault? (fun route => .route route.1 route.2)
      (order.discounts tables.toTariff.discounts.entries)

end Rule

/-- The first violation of the rules, with the groups in some order. -/
def Tables.violationIn? (tables : Tables) (order : GroupOrder) :
    Option (TariffTable × Violation) :=
  Rule.all.findSome? fun rule => (rule.violation? order tables).map (rule.table, ·)

theorem Tables.violationIn?_asAdded (tables : Tables) :
    tables.violationIn? .asAdded = tables.violation? := by
  simp only [violationIn?, violation?, Rule.all, findSome?_cons_eq_or, List.findSome?_nil,
    Option.or_none, Rule.violation?, Rule.table, Option.map_map, Option.orElse_eq_orElse,
    Option.orElse_eq_or]
  rfl

/-- The tariff of the tables, unless there is a violation to report. -/
def Tables.admit (tables : Tables) (metadata : TariffMetadata) :
    Option (TariffTable × Violation) → Except LoadFailure LoadedTariff
  | some (table, violation) => .error (.rejected table violation)
  | none => .ok { metadata, tariff := tables.toTariff }

namespace Directory

/-- The tariff of a directory, with the groups in some order. -/
def loadIn (order : GroupOrder) (d : Directory) : Except LoadFailure LoadedTariff := do
  let (metadata, tables) ← d.read
  tables.admit metadata (tables.violationIn? order)

theorem loadIn_asAdded (d : Directory) : d.loadIn .asAdded = d.load := by
  unfold loadIn
  simp only [Tables.violationIn?_asAdded]
  rfl

end Directory

/-! ### Ranges under one key -/

section

variable {ρ κ : Type} [EffectiveDated ρ]

/-- Two rows under one key never apply on the same day. -/
def Apart (key : ρ → κ) (a b : ρ) : Prop :=
  key a = key b → ∀ date,
    ¬(((EffectiveDated.effective a).lower ≤ date ∧ date < (EffectiveDated.effective a).upper) ∧
      (EffectiveDated.effective b).lower ≤ date ∧ date < (EffectiveDated.effective b).upper)

theorem Apart.symm {key : ρ → κ} {a b : ρ} (h : Apart key a b) : Apart key b a := by
  intro hkey date hdate
  exact h hkey.symm date hdate.symm

/-- Every row applies on some days, and any two of them under one key on different ones. -/
structure KeepsRanges (key : ρ → κ) (rows : List ρ) : Prop where
  nonempty : ∀ r ∈ rows, (EffectiveDated.effective r).lower < (EffectiveDated.effective r).upper
  apart : rows.Pairwise (Apart key)

/-- Rows keep their ranges in any order. -/
theorem keepsRanges_perm {key : ρ → κ} {rows rows' : List ρ} (h : rows.Perm rows') :
    KeepsRanges key rows ↔ KeepsRanges key rows' := by
  constructor
  · rintro ⟨hnonempty, hapart⟩
    exact ⟨fun r hr => hnonempty r (h.mem_iff.2 hr), (h.pairwise_iff Apart.symm).1 hapart⟩
  · rintro ⟨hnonempty, hapart⟩
    exact ⟨fun r hr => hnonempty r (h.mem_iff.1 hr), (h.pairwise_iff Apart.symm).2 hapart⟩

theorem rangeFault?_map_eq_none_iff {rows : List ρ} :
    rangeFault? (rows.map EffectiveDated.effective) = none ↔ KeepsRanges (fun _ => ()) rows := by
  rw [rangeFault?_eq_none_iff, List.forall_mem_map, List.pairwise_map]
  simp only [EffectiveRange.isEmpty_eq_false_iff]
  constructor
  · rintro ⟨hnonempty, hapart⟩
    refine ⟨hnonempty, hapart.imp fun hab _ date hdate => ?_⟩
    have hover := EffectiveRange.overlaps_of_contains (EffectiveRange.contains_iff.2 hdate.1)
      (EffectiveRange.contains_iff.2 hdate.2)
    rw [hab] at hover
    cases hover
  · rintro ⟨hnonempty, hapart⟩
    refine ⟨hnonempty, hapart.imp_of_mem fun {a b} ha hb hab => ?_⟩
    refine Bool.eq_false_iff.2 fun hover => ?_
    -- only ranges that are not empty are sure to share a day if they overlap
    obtain ⟨date, hdate, hdate'⟩ := EffectiveRange.exists_contains_of_overlaps
      (EffectiveRange.isEmpty_eq_false_iff.2 (hnonempty a ha))
      (EffectiveRange.isEmpty_eq_false_iff.2 (hnonempty b hb)) hover
    exact hab rfl date ⟨EffectiveRange.contains_iff.1 hdate, EffectiveRange.contains_iff.1 hdate'⟩

/-- Rows keep their ranges if the rows under each key do. -/
theorem keepsRanges_iff_forall_filter [DecidableEq κ] {key : ρ → κ} {rows : List ρ} :
    KeepsRanges key rows ↔ ∀ k, KeepsRanges (fun _ => ()) (rows.filter (key · = k)) := by
  constructor
  · rintro ⟨hnonempty, hapart⟩ k
    refine ⟨fun r hr => hnonempty r (List.mem_of_mem_filter hr), ?_⟩
    refine List.pairwise_filter.2 (hapart.imp fun hab ha hb _ => ?_)
    exact hab ((of_decide_eq_true ha).trans (of_decide_eq_true hb).symm)
  · intro h
    constructor
    · intro r hr
      exact (h (key r)).nonempty r (List.mem_filter.2 ⟨hr, decide_eq_true rfl⟩)
    · refine List.pairwise_iff_forall_sublist.2 fun {a b} hab hkey => ?_
      -- the two rows stand in the same order among those under their key
      have hsub : [a, b].Sublist (rows.filter (key · = key a)) := by
        have := hab.filter (fun r => decide (key r = key a))
        simpa [hkey] using this
      exact List.pairwise_iff_forall_sublist.1 (h (key a)).apart hsub rfl

/-- Groups are checked alike in any order: what counts is the rows that they hold. -/
theorem groupFault?_eq_none_iff [DecidableEq κ] {key : ρ → κ} {rows : List ρ}
    {t : Table κ (List ρ)} (hdistinct : t.Distinct)
    (hgroup : ∀ k, t.group k = rows.filter (key · = k)) {groups : List (κ × List ρ)}
    (hperm : groups.Perm t.entries) (report : κ → RangeFault → Violation) :
    groupFault? report groups = none ↔ KeepsRanges key rows := by
  rw [keepsRanges_iff_forall_filter]
  unfold groupFault?
  simp only [List.findSome?_eq_none_iff, Option.map_eq_none_iff, rangeFault?_map_eq_none_iff,
    hperm.mem_iff, ← hgroup]
  constructor
  · intro h k
    exact Table.group_of_forall ⟨by simp, .nil⟩ (fun j rows hrows => h (j, rows) hrows) k
  · rintro h ⟨k, rows⟩ hrows
    rw [← Table.group_eq_of_mem hdistinct hrows]
    exact h k

end

/-! ### What the rules demand -/

namespace Rule

/-- What a rule demands. -/
def Kept (tables : Tables) : Rule → Prop
  | baseLinehaul =>
    ∀ r ∈ tables.baseLinehaul, r.milesLower < r.milesUpper ∧ r.cwtLower < r.cwtUpper
  | shorthaul => ∀ r ∈ tables.shorthaul, r.cwtMilesLower < r.cwtMilesUpper
  | discountRates => ∀ r ∈ tables.discounts, (0 ≤ r.linehaulRate.toRat ∧ r.linehaulRate.toRat ≤ 1) ∧
    0 ≤ r.sitRate.toRat ∧ r.sitRate.toRat ≤ 1
  | serviceAreaRanges => KeepsRanges (·.serviceArea) tables.serviceAreas
  | discountRanges =>
    KeepsRanges (fun r => (r.originRateArea, r.destinationRegion)) tables.discounts

/-- The check of a rule passes just if the rule is kept, in any order of the groups. -/
theorem violation?_eq_none_iff (order : GroupOrder) {tables : Tables} (rule : Rule) :
    rule.violation? order tables = none ↔ rule.Kept tables := by
  cases rule with
  | baseLinehaul => simp [violation?, Kept, BaseLinehaulRate.isEmpty]
  | shorthaul => simp [violation?, Kept, ShorthaulRate.isEmpty]
  | discountRates =>
    simp [violation?, Kept, Tables.refusal?_eq_none_iff, Decimal.isUnit_iff_toRat]
  | serviceAreaRanges =>
    exact groupFault?_eq_none_iff Tables.distinct_serviceAreas_toTariff
      (fun k => Tables.serviceAreaRates_toTariff k) (order.serviceAreas_perm _) _
  | discountRanges =>
    have hgroup : ∀ route, tables.toTariff.discounts.group route =
        tables.discounts.filter (·.route = route) := fun route =>
      Tables.routeDiscounts_toTariff route.1 route.2
    exact groupFault?_eq_none_iff Tables.distinct_discounts_toTariff hgroup
      (order.discounts_perm _) fun route => .route route.1 route.2

theorem mem_all (rule : Rule) : rule ∈ all := by cases rule <;> decide

end Rule

namespace Tables

variable {tables : Tables} {order : GroupOrder}

/-- The first rule, in the order of the checks, that is not kept. -/
def FirstBroken (tables : Tables) (rule : Rule) : Prop :=
  FirstWithout (Rule.Kept tables) Rule.all rule

theorem FirstBroken.exists_violation? {rule : Rule} (h : tables.FirstBroken rule)
    (order : GroupOrder) : ∃ violation, rule.violation? order tables = some violation := by
  obtain ⟨before, after, -, hbroken, -⟩ := h
  refine Option.ne_none_iff_exists'.1 fun hnone => ?_
  exact hbroken ((Rule.violation?_eq_none_iff order rule).1 hnone)

theorem violationIn?_eq_none_iff :
    tables.violationIn? order = none ↔ ∀ rule : Rule, rule.Kept tables := by
  simp only [violationIn?, List.findSome?_eq_none_iff, Option.map_eq_none_iff,
    Rule.violation?_eq_none_iff]
  exact ⟨fun h rule => h rule rule.mem_all, fun h rule _ => h rule⟩

theorem violationIn?_eq_some_iff {p : TariffTable × Violation} :
    tables.violationIn? order = some p ↔
      ∃ rule : Rule, tables.FirstBroken rule ∧
        ∃ violation, rule.violation? order tables = some violation ∧
          p = (rule.table, violation) := by
  unfold violationIn?
  rw [findSome?_eq_some_iff_firstWithout (P := Rule.Kept tables) fun rule => by
    rw [Option.map_eq_none_iff, Rule.violation?_eq_none_iff]]
  simp only [Option.map_eq_some_iff, eq_comm (a := p)]
  rfl

end Tables

/-! ### Verdicts -/

theorem TariffFile.name_inj {a b : TariffFile} : a.name = b.name ↔ a = b := by
  refine ⟨fun h => ?_, fun h => h ▸ rfl⟩
  cases a with
  | metadata =>
    cases b with
    | metadata => rfl
    | table t => cases t <;> simp [name] at h
  | table s =>
    cases b with
    | metadata => cases s <;> simp [name] at h
    | table t => cases s <;> cases t <;> first | rfl | simp [name] at h

namespace LoadFailure

variable {f : LoadFailure} {file : TariffFile}

theorem toRefusal_eq_fileNotFound_iff :
    f.toRefusal = .fileNotFound file.name ↔ f = .notFound file := by
  cases f with
  | notFound file' => simp [toRefusal, TariffFile.name_inj]
  | unreadable file' problem => simp [toRefusal]
  | rejected table violation => simp [toRefusal]

theorem exists_toRefusal_eq_fileRejected_iff :
    (∃ why, f.toRefusal = .fileRejected file.name why) ↔
      (∃ problem, f = .unreadable file problem) ∨
        ∃ table violation, f = .rejected table violation ∧ file = .table table := by
  cases f with
  | notFound file' => simp [toRefusal]
  | unreadable file' problem => simp [toRefusal, TariffFile.name_inj]
  | rejected table violation => simp [toRefusal, TariffFile.name_inj, eq_comm]

end LoadFailure

namespace Directory

variable {d : Directory} {order : GroupOrder}

theorem loadIn_eq_ok_iff {l : LoadedTariff} :
    d.loadIn order = .ok l ↔ ∃ tables, d.Holds l.metadata tables ∧
      (∀ rule : Rule, rule.Kept tables) ∧ l.tariff = tables.toTariff := by
  unfold loadIn
  rw [bind_eq_ok_iff]
  constructor
  · rintro ⟨⟨metadata, tables⟩, hread, hadmit⟩
    dsimp only at hadmit
    cases hviolation : tables.violationIn? order with
    | none =>
      rw [hviolation] at hadmit
      cases hadmit
      exact ⟨tables, read_eq_ok_iff.1 hread, Tables.violationIn?_eq_none_iff.1 hviolation, rfl⟩
    | some p =>
      rw [hviolation] at hadmit
      cases hadmit
  · rintro ⟨tables, hholds, hkept, htariff⟩
    refine ⟨(l.metadata, tables), read_eq_ok_iff.2 hholds, ?_⟩
    dsimp only
    rw [Tables.violationIn?_eq_none_iff.2 hkept]
    unfold Tables.admit
    rw [← htariff]

theorem load_eq_ok_iff_kept {l : LoadedTariff} :
    d.load = .ok l ↔ ∃ tables, d.Holds l.metadata tables ∧ (∀ rule : Rule, rule.Kept tables) ∧
      l.tariff = tables.toTariff := by
  rw [← loadIn_asAdded]
  exact loadIn_eq_ok_iff

/-- What a directory that is not loaded fails for: a file, or else a rule. -/
theorem loadIn_eq_error_iff {f : LoadFailure} :
    d.loadIn order = .error f ↔
      (∃ file, d.FirstUnread file ∧ d.fileFailure? file = some f) ∨
        ∃ metadata tables rule, d.Holds metadata tables ∧ tables.FirstBroken rule ∧
          ∃ violation, rule.violation? order tables = some violation ∧
            f = .rejected rule.table violation := by
  unfold loadIn
  rw [bind_eq_error_iff, read_eq_error_iff]
  refine or_congr_right ?_
  constructor
  · rintro ⟨⟨metadata, tables⟩, hread, hadmit⟩
    dsimp only at hadmit
    cases hviolation : tables.violationIn? order with
    | none =>
      rw [hviolation] at hadmit
      cases hadmit
    | some p =>
      rw [hviolation] at hadmit
      obtain ⟨rule, hrule, violation, hbroken, rfl⟩ :=
        Tables.violationIn?_eq_some_iff.1 hviolation
      cases hadmit
      exact ⟨metadata, tables, rule, read_eq_ok_iff.1 hread, hrule, violation, hbroken, rfl⟩
  · rintro ⟨metadata, tables, rule, hholds, hrule, violation, hbroken, rfl⟩
    refine ⟨(metadata, tables), read_eq_ok_iff.2 hholds, ?_⟩
    dsimp only
    rw [Tables.violationIn?_eq_some_iff.2 ⟨rule, hrule, violation, hbroken, rfl⟩]
    rfl

theorem exists_loadIn_eq_ok_iff :
    (∃ l, d.loadIn order = .ok l) ↔
      ∃ metadata tables, d.Holds metadata tables ∧ ∀ rule : Rule, rule.Kept tables := by
  simp only [loadIn_eq_ok_iff]
  constructor
  · rintro ⟨l, tables, hholds, hkept, -⟩
    exact ⟨l.metadata, tables, hholds, hkept⟩
  · rintro ⟨metadata, tables, hholds, hkept⟩
    exact ⟨⟨metadata, tables.toTariff⟩, tables, hholds, hkept, rfl⟩

/-- The file that is reported as not found. -/
theorem loadIn_fileNotFound_iff {file : TariffFile} :
    (∃ f, d.loadIn order = .error f ∧ f.toRefusal = .fileNotFound file.name) ↔
      d.FirstUnread file ∧ d.Lacks file := by
  simp only [LoadFailure.toRefusal_eq_fileNotFound_iff, exists_eq_right, loadIn_eq_error_iff]
  constructor
  · rintro (⟨file', hfirst, hfailure⟩ | ⟨metadata, tables, rule, hholds, hrule, v, hv, hf⟩)
    · rcases fileFailure?_eq_some_iff.1 hfailure with ⟨hlacks, hf⟩ | ⟨hnot, problem, herr, hf⟩
      · cases hf
        exact ⟨hfirst, hlacks⟩
      · cases hf
    · cases hf
  · rintro ⟨hfirst, hlacks⟩
    exact .inl ⟨file, hfirst, fileFailure?_eq_some_iff.2 (.inl ⟨hlacks, rfl⟩)⟩

/-- The file that is reported as rejected, since it cannot be read or breaks a rule. -/
theorem loadIn_fileRejected_iff {file : TariffFile} :
    (∃ f, d.loadIn order = .error f ∧ ∃ why, f.toRefusal = .fileRejected file.name why) ↔
      (d.FirstUnread file ∧ ¬d.Lacks file) ∨
        ∃ metadata tables rule, d.Holds metadata tables ∧ tables.FirstBroken rule ∧
          file = .table rule.table := by
  simp only [LoadFailure.exists_toRefusal_eq_fileRejected_iff, loadIn_eq_error_iff]
  constructor
  · rintro ⟨f, ⟨file', hfirst, hfailure⟩ |
      ⟨metadata, tables, rule, hholds, hrule, v, hv, rfl⟩, hf⟩
    · rcases fileFailure?_eq_some_iff.1 hfailure with ⟨hlacks, rfl⟩ | ⟨hnot, problem, herr, rfl⟩
      · simp at hf
      · obtain rfl : file' = file := by simpa using hf
        exact .inl ⟨hfirst, hnot⟩
    · have hfile : file = .table rule.table := by simpa [eq_comm] using hf
      exact .inr ⟨metadata, tables, rule, hholds, hrule, hfile⟩
  · rintro (⟨hfirst, hnot⟩ | ⟨metadata, tables, rule, hholds, hrule, rfl⟩)
    · obtain ⟨f, hfailure⟩ := hfirst.exists_fileFailure?
      refine ⟨f, .inl ⟨file, hfirst, hfailure⟩, .inl ?_⟩
      rcases fileFailure?_eq_some_iff.1 hfailure with ⟨hlacks, hf⟩ | ⟨hnot', problem, herr, hf⟩
      · exact absurd hlacks hnot
      · exact ⟨problem, hf⟩
    · obtain ⟨violation, hviolation⟩ := hrule.exists_violation? order
      exact ⟨.rejected rule.table violation,
        .inr ⟨metadata, tables, rule, hholds, hrule, violation, hviolation, rfl⟩,
        .inr ⟨rule.table, violation, rfl, rfl⟩⟩

/-- A directory is loaded just if its seven files are read and keep all rules. Else it fails for the
first file that is not readable, which is not found if it is lacking, or else for the file of the
first rule that is broken. The order in which groups of rows are gone through does not show. -/
theorem loadIn_verdict (d : Directory) (order : GroupOrder) :
    d.load = d.loadIn .asAdded ∧
      ((∃ l, d.loadIn order = .ok l) ↔
        ∃ metadata tables, d.Holds metadata tables ∧ ∀ rule : Rule, rule.Kept tables) ∧
      ∀ file,
        ((∃ f, d.loadIn order = .error f ∧ f.toRefusal = .fileNotFound file.name) ↔
          d.FirstUnread file ∧ d.Lacks file) ∧
        ((∃ f, d.loadIn order = .error f ∧ ∃ why, f.toRefusal = .fileRejected file.name why) ↔
          (d.FirstUnread file ∧ ¬d.Lacks file) ∨
            ∃ metadata tables rule, d.Holds metadata tables ∧ tables.FirstBroken rule ∧
              file = .table rule.table) := by
  refine ⟨d.loadIn_asAdded.symm, exists_loadIn_eq_ok_iff, fun file => ⟨?_, ?_⟩⟩
  · exact loadIn_fileNotFound_iff
  · exact loadIn_fileRejected_iff

end Directory

end MoveRating
