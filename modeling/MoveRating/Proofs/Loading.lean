import Mathlib.Data.List.Basic
import MoveRating.Proofs.Lookup
import MoveRating.Proofs.Ranges
import MoveRating.Tariff.Directory

/-!
# Loaded tariffs

What a directory that is loaded says about the tariff in it.

* `Tariff.serviceAreaRates_addAll` and `Tariff.routeDiscounts_addAll`: adding rows puts each at the
  end of the group under its key. `Tables.serviceAreaRates_toTariff` and
  `Tables.routeDiscounts_toTariff` say it of whole tables.
* `Tables.violation?_eq_none_iff` and `Directory.load_eq_ok_iff`: when tables are accepted, and what
  a loaded tariff is.
* `Tables.disjointRanges_serviceAreas` and `Tables.disjointRanges_discounts`: in accepted tables,
  the rows under one key are disjoint.
-/

namespace MoveRating

/-! ### Groups of rows -/

namespace Table

variable {κ ν : Type} [DecidableEq κ]

theorem mem_of_find? {k : κ} {v : ν} {entries : List (κ × ν)} (h : find? k entries = some v) :
    (k, v) ∈ entries := by
  induction entries with
  | nil => cases h
  | cons e rest ih =>
    obtain ⟨k', v'⟩ := e
    unfold find? at h
    split at h
    · next hk =>
      subst hk
      cases h
      exact List.mem_cons_self
    · exact List.mem_cons_of_mem _ (ih h)

/-- What holds of every group that a table has, and of the empty one, holds of the group under any
key. -/
theorem group_of_forall {P : List ν → Prop} {t : Table κ (List ν)} (hnil : P [])
    (h : ∀ k rows, (k, rows) ∈ t.entries → P rows) (k : κ) : P (t.group k) := by
  unfold group
  cases hget : t.get? k with
  | none => exact hnil
  | some rows => exact h k rows (mem_of_find? hget)

end Table

/-- The row, if it is one of a service area. -/
def TariffRow.serviceArea? : TariffRow → Option ServiceAreaRate
  | .serviceArea r => some r
  | _ => none

/-- The row, if it is one of a route. -/
def TariffRow.discount? : TariffRow → Option RouteDiscountRate
  | .discount r => some r
  | _ => none

/-- The key under which the row of a route is kept. -/
def RouteDiscountRate.route (r : RouteDiscountRate) : String × UInt32 :=
  (r.originRateArea, r.destinationRegion)

namespace Tariff

theorem serviceAreaRates_addAll (t : Tariff) (rows : List TariffRow) (code : UInt32) :
    (t.addAll rows).serviceAreaRates code =
      t.serviceAreaRates code ++
        (rows.filterMap TariffRow.serviceArea?).filter (·.serviceArea = code) := by
  induction rows generalizing t with
  | nil => exact (List.append_nil _).symm
  | cons row rows ih =>
    rw [show t.addAll (row :: rows) = (t.add row).addAll rows from rfl, ih]
    cases row with
    | serviceArea r =>
      -- only a row of a service area changes the groups, and only the one of its own
      have hpush : (t.add (.serviceArea r)).serviceAreaRates code =
          if r.serviceArea = code then t.serviceAreaRates code ++ [r]
          else t.serviceAreaRates code := t.serviceAreas.group_push r.serviceArea code r
      rw [hpush,
        List.filterMap_cons_some (show TariffRow.serviceArea? (.serviceArea r) = _ from rfl)]
      by_cases h : r.serviceArea = code
      · simp [h]
      · simp [h]
    | _ => rfl

theorem routeDiscounts_addAll (t : Tariff) (rows : List TariffRow) (area : String)
    (region : UInt32) :
    (t.addAll rows).routeDiscounts area region =
      t.routeDiscounts area region ++
        (rows.filterMap TariffRow.discount?).filter (·.route = (area, region)) := by
  induction rows generalizing t with
  | nil => exact (List.append_nil _).symm
  | cons row rows ih =>
    rw [show t.addAll (row :: rows) = (t.add row).addAll rows from rfl, ih]
    cases row with
    | discount r =>
      have hpush : (t.add (.discount r)).routeDiscounts area region =
          if r.route = (area, region) then t.routeDiscounts area region ++ [r]
          else t.routeDiscounts area region := t.discounts.group_push r.route (area, region) r
      rw [hpush, List.filterMap_cons_some (show TariffRow.discount? (.discount r) = _ from rfl)]
      by_cases h : r.route = (area, region)
      · simp [h]
      · simp [h]
    | _ => rfl

end Tariff

namespace Tables

variable {tables : Tables}

/-- A service area has the rows of the table that name it, in their order. -/
theorem serviceAreaRates_toTariff (code : UInt32) :
    tables.toTariff.serviceAreaRates code =
      tables.serviceAreas.filter (·.serviceArea = code) := by
  have hrows : tables.rows.filterMap TariffRow.serviceArea? = tables.serviceAreas := by
    simp [rows, List.filterMap_append, List.filterMap_map, Function.comp_def,
      TariffRow.serviceArea?, List.filterMap_none]
  unfold toTariff
  rw [Tariff.serviceAreaRates_addAll, hrows]
  rfl

/-- A route has the rows of the table that name it, in their order. -/
theorem routeDiscounts_toTariff (area : String) (region : UInt32) :
    tables.toTariff.routeDiscounts area region =
      tables.discounts.filter (·.route = (area, region)) := by
  have hrows : tables.rows.filterMap TariffRow.discount? = tables.discounts := by
    simp [rows, List.filterMap_append, List.filterMap_map, Function.comp_def,
      TariffRow.discount?, List.filterMap_none]
  unfold toTariff
  rw [Tariff.routeDiscounts_addAll, hrows]
  rfl

/-! ### Accepted tables -/

theorem refusal?_eq_none_iff {r : RouteDiscountRate} :
    r.refusal? = none ↔ r.linehaulRate.isUnit = true ∧ r.sitRate.isUnit = true := by
  unfold RouteDiscountRate.refusal?
  rw [List.findSome?_eq_none_iff]
  constructor
  · intro h
    have hunit : ∀ fraction ∈ [r.linehaulRate, r.sitRate], fraction.isUnit = true := by
      intro fraction hmem
      have hnone := h fraction hmem
      by_cases hfraction : fraction.isUnit = true
      · exact hfraction
      · rw [show DiscountRate.ofFraction fraction = .error _ from if_neg hfraction] at hnone
        cases hnone
    exact ⟨hunit r.linehaulRate (by simp), hunit r.sitRate (by simp)⟩
  · rintro ⟨hlinehaul, hsit⟩ fraction hmem
    have hunit : fraction.isUnit = true := by
      rcases List.mem_pair.1 hmem with rfl | rfl
      · exact hlinehaul
      · exact hsit
    rw [show DiscountRate.ofFraction fraction = .ok _ from if_pos hunit]

theorem violation?_eq_none_iff :
    tables.violation? = none ↔
      (∀ r ∈ tables.baseLinehaul, r.isEmpty = false) ∧
        (∀ r ∈ tables.shorthaul, r.isEmpty = false) ∧
        (∀ r ∈ tables.discounts, r.linehaulRate.isUnit = true ∧ r.sitRate.isUnit = true) ∧
        serviceAreaFault? tables.toTariff = none ∧ routeFault? tables.toTariff = none := by
  simp only [violation?, Option.orElse_eq_orElse, Option.orElse_eq_or, Option.or_eq_none_iff,
    Option.map_eq_none_iff, List.find?_eq_none, List.findSome?_eq_none_iff, refusal?_eq_none_iff,
    Bool.not_eq_true]

/-- The rows of a service area in accepted tables. -/
theorem disjointRanges_serviceAreas (h : tables.violation? = none) (code : UInt32) :
    DisjointRanges (tables.serviceAreas.filter (·.serviceArea = code)) := by
  obtain ⟨-, -, -, hfault, -⟩ := violation?_eq_none_iff.1 h
  rw [← serviceAreaRates_toTariff]
  refine Table.group_of_forall List.Pairwise.nil (fun k rows hrows => ?_) code
  have hnone := List.findSome?_eq_none_iff.1 hfault (k, rows) hrows
  exact disjointRanges_of_rangeFault? (Option.map_eq_none_iff.1 hnone)

/-- The rows of a route in accepted tables. -/
theorem disjointRanges_discounts (h : tables.violation? = none) (area : String) (region : UInt32) :
    DisjointRanges (tables.discounts.filter (·.route = (area, region))) := by
  obtain ⟨-, -, -, -, hfault⟩ := violation?_eq_none_iff.1 h
  rw [← routeDiscounts_toTariff]
  refine Table.group_of_forall List.Pairwise.nil (fun k rows hrows => ?_) (area, region)
  have hnone := List.findSome?_eq_none_iff.1 hfault (k, rows) hrows
  exact disjointRanges_of_rangeFault? (Option.map_eq_none_iff.1 hnone)

end Tables

/-- A directory is loaded if all files are read and the tables accepted. -/
theorem Directory.load_eq_ok_iff {d : Directory} {l : LoadedTariff} :
    d.load = .ok l ↔ ∃ tables, d.read = .ok (l.metadata, tables) ∧ tables.violation? = none ∧
      l.tariff = tables.toTariff := by
  unfold load
  constructor
  · intro h
    obtain ⟨⟨metadata, tables⟩, hread, h⟩ := bind_eq_ok_iff.1 h
    dsimp only at h
    split at h
    · cases h
    · next hnone =>
      cases h
      exact ⟨tables, hread, hnone, rfl⟩
  · rintro ⟨tables, hread, hnone, htariff⟩
    refine bind_eq_ok_iff.2 ⟨(l.metadata, tables), hread, ?_⟩
    dsimp only
    rw [hnone, ← htariff]

end MoveRating
