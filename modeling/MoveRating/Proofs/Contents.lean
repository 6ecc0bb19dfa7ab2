import MoveRating.Proofs.Loading

/-!
# What a tariff holds

The six parts of a tariff to which rows were added, each told by the rows of its own kind.

* `Table.get?_foldl_put`: of the values put under a key, the last one stands there.
* `Table.Distinct`: no key stands twice in a table. Every table that is filled by pushing is so, and
  then its entries are its groups (`Table.group_eq_of_mem`).
* `Tariff.addAll_eq`: each part after the addition of rows, and `Tables.zip3?_toTariff`,
  `Tables.distance?_toTariff`, `Tables.baseLinehaul_toTariff` and `Tables.shorthaul_toTariff`: what
  the tariff of some tables answers. The groups of rows are in
  `Tables.serviceAreaRates_toTariff` and `Tables.routeDiscounts_toTariff`.
-/

namespace MoveRating

namespace Table

variable {κ ν ρ : Type}

/-- No key stands twice in the table. -/
def Distinct (t : Table κ ν) : Prop := (t.entries.map Prod.fst).Nodup

theorem distinct_empty : (empty : Table κ ν).Distinct := List.nodup_nil

/-! ### Tables filled one value after another -/

variable [DecidableEq κ]

theorem get?_foldl_put (key : ρ → κ) (value : ρ → ν) (rows : List ρ) (t : Table κ ν) (k : κ) :
    (rows.foldl (fun t r => t.put (key r) (value r)) t).get? k =
      ((rows.filter (key · = k)).getLast?.map value).or (t.get? k) := by
  induction rows generalizing t with
  | nil => simp
  | cons r rows ih =>
    rw [List.foldl_cons, ih, get?_put]
    by_cases h : key r = k
    · -- the row put first counts if no later one has its key
      rw [if_pos h, List.filter_cons_of_pos (by simpa using h), List.getLast?_cons]
      cases (rows.filter (key · = k)).getLast? with
      | none => simp
      | some last => simp
    · rw [if_neg h, List.filter_cons_of_neg (by simpa using h)]

theorem mem_keys_insert {k j : κ} {v : ν} {entries : List (κ × ν)}
    (h : j ∈ (insert k v entries).map Prod.fst) : j = k ∨ j ∈ entries.map Prod.fst := by
  induction entries with
  | nil => exact .inl (by simpa [insert] using h)
  | cons e entries ih =>
    obtain ⟨k', v'⟩ := e
    unfold insert at h
    by_cases hk : k' = k
    · rw [if_pos hk] at h
      rcases List.mem_cons.1 h with rfl | h
      · exact .inl rfl
      · exact .inr (List.mem_cons_of_mem _ h)
    · rw [if_neg hk] at h
      rcases List.mem_cons.1 h with rfl | h
      · exact .inr List.mem_cons_self
      · exact (ih h).imp_right (List.mem_cons_of_mem _)

theorem nodup_keys_insert (k : κ) (v : ν) {entries : List (κ × ν)}
    (h : (entries.map Prod.fst).Nodup) : ((insert k v entries).map Prod.fst).Nodup := by
  induction entries with
  | nil => simp [insert]
  | cons e entries ih =>
    obtain ⟨k', v'⟩ := e
    obtain ⟨hnew, hrest⟩ := List.nodup_cons.1 h
    unfold insert
    by_cases hk : k' = k
    · rw [if_pos hk]
      subst hk
      exact List.nodup_cons.2 ⟨hnew, hrest⟩
    · rw [if_neg hk]
      refine List.nodup_cons.2 ⟨fun hmem => ?_, ih hrest⟩
      rcases mem_keys_insert hmem with hsame | hmem
      · exact hk hsame
      · exact hnew hmem

theorem distinct_push {t : Table κ (List ν)} (h : t.Distinct) (k : κ) (v : ν) :
    (t.push k v).Distinct := nodup_keys_insert k _ h

theorem distinct_foldl_push (key : ν → κ) (rows : List ν) {t : Table κ (List ν)}
    (h : t.Distinct) : (rows.foldl (fun t r => t.push (key r) r) t).Distinct := by
  induction rows generalizing t with
  | nil => exact h
  | cons r rows ih => exact ih (distinct_push h (key r) r)

theorem find?_of_mem {k : κ} {v : ν} {entries : List (κ × ν)} (h : (entries.map Prod.fst).Nodup)
    (hmem : (k, v) ∈ entries) : find? k entries = some v := by
  induction entries with
  | nil => cases hmem
  | cons e entries ih =>
    obtain ⟨k', v'⟩ := e
    obtain ⟨hnew, hrest⟩ := List.nodup_cons.1 h
    unfold find?
    rcases List.mem_cons.1 hmem with heq | hmem
    · obtain ⟨rfl, rfl⟩ := Prod.mk.inj heq
      exact if_pos rfl
    · have hk : k' ≠ k := by
        rintro rfl
        exact hnew (List.mem_map.2 ⟨_, hmem, rfl⟩)
      rw [if_neg hk]
      exact ih hrest hmem

/-- What stands under a key in a table without double keys is the group of the key. -/
theorem group_eq_of_mem {t : Table κ (List ν)} (h : t.Distinct) {k : κ} {values : List ν}
    (hmem : (k, values) ∈ t.entries) : t.group k = values := by
  unfold group get?
  rw [find?_of_mem h hmem]
  rfl

end Table

/-! ### The parts of a tariff -/

/-- The row, if it is one of a postal area. -/
def TariffRow.zip3? : TariffRow → Option Zip3
  | .zip3 r => some r
  | _ => none

/-- The row, if it is a distance. -/
def TariffRow.distance? : TariffRow → Option ZipDistance
  | .distance r => some r
  | _ => none

/-- The row, if it is a longhaul bracket. -/
def TariffRow.baseLinehaul? : TariffRow → Option BaseLinehaulRate
  | .baseLinehaul r => some r
  | _ => none

/-- The row, if it is a shorthaul bracket. -/
def TariffRow.shorthaul? : TariffRow → Option ShorthaulRate
  | .shorthaul r => some r
  | _ => none

/-- The key under which a distance is kept. -/
def ZipDistance.areas (r : ZipDistance) : UInt32 × UInt32 := (r.originZip3, r.destinationZip3)

namespace Tariff

/-- Rows change the part of their own kind, in their order, and no other one. -/
theorem addAll_eq (t : Tariff) (rows : List TariffRow) :
    t.addAll rows =
      { zip3s := (rows.filterMap TariffRow.zip3?).foldl (fun z r => z.put r.zip3 r) t.zip3s
        distances := (rows.filterMap TariffRow.distance?).foldl
          (fun z r => z.put r.areas r.miles) t.distances
        serviceAreas := (rows.filterMap TariffRow.serviceArea?).foldl
          (fun z r => z.push r.serviceArea r) t.serviceAreas
        baseLinehaul := t.baseLinehaul ++ rows.filterMap TariffRow.baseLinehaul?
        shorthaul := t.shorthaul ++ rows.filterMap TariffRow.shorthaul?
        discounts := (rows.filterMap TariffRow.discount?).foldl
          (fun z r => z.push r.route r) t.discounts } := by
  induction rows generalizing t with
  | nil => simp [addAll]
  | cons row rows ih =>
    rw [show t.addAll (row :: rows) = (t.add row).addAll rows from rfl, ih]
    cases row with
    | baseLinehaul r =>
      simp only [add, List.append_assoc]
      rfl
    | shorthaul r =>
      simp only [add, List.append_assoc]
      rfl
    | _ => rfl

end Tariff

namespace Tables

variable {tables : Tables}

/-- The tariff of some tables, part by part. -/
theorem toTariff_eq (tables : Tables) :
    tables.toTariff =
      { zip3s := tables.zip3s.foldl (fun z r => z.put r.zip3 r) .empty
        distances := tables.distances.foldl (fun z r => z.put r.areas r.miles) .empty
        serviceAreas := tables.serviceAreas.foldl (fun z r => z.push r.serviceArea r) .empty
        baseLinehaul := tables.baseLinehaul
        shorthaul := tables.shorthaul
        discounts := tables.discounts.foldl (fun z r => z.push r.route r) .empty } := by
  unfold toTariff
  rw [Tariff.addAll_eq]
  simp [rows, Tariff.empty, List.filterMap_append, List.filterMap_map, Function.comp_def,
    TariffRow.zip3?, TariffRow.distance?, TariffRow.serviceArea?, TariffRow.baseLinehaul?,
    TariffRow.shorthaul?, TariffRow.discount?, List.filterMap_none]

theorem zip3?_toTariff (k : UInt32) :
    tables.toTariff.zip3? k = (tables.zip3s.filter (·.zip3 = k)).getLast? := by
  rw [toTariff_eq]
  unfold Tariff.zip3?
  rw [Table.get?_foldl_put Zip3.zip3 (fun r => r)]
  simp

theorem distance?_toTariff (origin destination : UInt32) :
    tables.toTariff.distance? origin destination =
      (tables.distances.filter (·.areas = (origin, destination))).getLast?.map (·.miles) := by
  rw [toTariff_eq]
  unfold Tariff.distance?
  rw [Table.get?_foldl_put ZipDistance.areas ZipDistance.miles]
  simp

theorem baseLinehaul_toTariff : tables.toTariff.baseLinehaul = tables.baseLinehaul := by
  rw [toTariff_eq]

theorem shorthaul_toTariff : tables.toTariff.shorthaul = tables.shorthaul := by rw [toTariff_eq]

theorem distinct_serviceAreas_toTariff : tables.toTariff.serviceAreas.Distinct := by
  rw [toTariff_eq]
  exact Table.distinct_foldl_push ServiceAreaRate.serviceArea _ Table.distinct_empty

theorem distinct_discounts_toTariff : tables.toTariff.discounts.Distinct := by
  rw [toTariff_eq]
  exact Table.distinct_foldl_push RouteDiscountRate.route _ Table.distinct_empty

end Tables

end MoveRating
