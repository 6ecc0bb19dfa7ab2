import MoveRating.Proofs.Contents

/-!
# A tariff and the log of its rows

A tariff is filled row by row, in any order of the tables. What it answers is told by the log of the
rows that were added.

* `Tariff.Records t log`: all look-ups in the tariff are answered by the log. Of the rows for one
  postal area or one ordered pair of them the last one counts; the rows of a service area, of a
  route and of the two tables of brackets are all there, in the order of the log.
* `Tariff.Records.addAll`: a tariff with more rows records them behind the others.
* `Tariff.KeepsOthers`: a tariff answers as another one does, but for one table.
* `Tariff.records_addAll`: a tariff that was filled from nothing records its rows, and a row of one
  table does not change what the other tables say.
-/

namespace MoveRating

/-- The table that a row is added to. -/
def TariffRow.table : TariffRow → TariffTable
  | .zip3 _ => .zip3
  | .distance _ => .distance
  | .serviceArea _ => .serviceArea
  | .baseLinehaul _ => .baseLinehaul
  | .shorthaul _ => .shorthaul
  | .discount _ => .discount

namespace Tariff

/-! ### Look-ups in the log -/

/-- All that the tariff says about its tables is what the rows in the log say. -/
structure Records (t : Tariff) (log : List TariffRow) : Prop where
  zip3? : ∀ zip3,
    t.zip3? zip3 = ((log.filterMap TariffRow.zip3?).filter (·.zip3 = zip3)).getLast?
  distance? : ∀ origin destination,
    t.distance? origin destination =
      ((log.filterMap TariffRow.distance?).filter
        (·.areas = (origin, destination))).getLast?.map (·.miles)
  serviceAreaRates : ∀ code,
    t.serviceAreaRates code =
      (log.filterMap TariffRow.serviceArea?).filter (·.serviceArea = code)
  baseLinehaul : t.baseLinehaul = log.filterMap TariffRow.baseLinehaul?
  shorthaul : t.shorthaul = log.filterMap TariffRow.shorthaul?
  routeDiscounts : ∀ area region,
    t.routeDiscounts area region =
      (log.filterMap TariffRow.discount?).filter (·.route = (area, region))

theorem records_empty : empty.Records [] where
  zip3? _ := rfl
  distance? _ _ := rfl
  serviceAreaRates _ := rfl
  baseLinehaul := rfl
  shorthaul := rfl
  routeDiscounts _ _ := rfl

/-- More rows are recorded behind those that are. -/
theorem Records.addAll {t : Tariff} {log : List TariffRow} (h : t.Records log)
    (rows : List TariffRow) : (t.addAll rows).Records (log ++ rows) where
  zip3? zip3 := by
    have hlast := Table.get?_foldl_put Zip3.zip3 (fun r => r) (rows.filterMap TariffRow.zip3?)
      t.zip3s zip3
    rw [addAll_eq, List.filterMap_append, List.filter_append, List.getLast?_append, ← h.zip3?]
    unfold Tariff.zip3?
    rw [hlast, Option.map_id']
  distance? origin destination := by
    have hlast := Table.get?_foldl_put ZipDistance.areas ZipDistance.miles
      (rows.filterMap TariffRow.distance?) t.distances (origin, destination)
    rw [addAll_eq, List.filterMap_append, List.filter_append, List.getLast?_append, Option.map_or,
      ← h.distance?]
    unfold Tariff.distance?
    rw [hlast]
  serviceAreaRates code := by
    rw [serviceAreaRates_addAll, h.serviceAreaRates, List.filterMap_append, List.filter_append]
  baseLinehaul := by rw [addAll_eq, h.baseLinehaul, List.filterMap_append]
  shorthaul := by rw [addAll_eq, h.shorthaul, List.filterMap_append]
  routeDiscounts area region := by
    rw [routeDiscounts_addAll, h.routeDiscounts, List.filterMap_append, List.filter_append]

/-! ### The other tables -/

/-- The second tariff says of all tables but one what the first says. -/
structure KeepsOthers (table : TariffTable) (t t' : Tariff) : Prop where
  zip3? : table ≠ .zip3 → ∀ zip3, t'.zip3? zip3 = t.zip3? zip3
  distance? : table ≠ .distance →
    ∀ origin destination, t'.distance? origin destination = t.distance? origin destination
  serviceAreaRates : table ≠ .serviceArea →
    ∀ code, t'.serviceAreaRates code = t.serviceAreaRates code
  baseLinehaul : table ≠ .baseLinehaul → t'.baseLinehaul = t.baseLinehaul
  shorthaul : table ≠ .shorthaul → t'.shorthaul = t.shorthaul
  routeDiscounts : table ≠ .discount →
    ∀ area region, t'.routeDiscounts area region = t.routeDiscounts area region

theorem keepsOthers_add (t : Tariff) (row : TariffRow) : KeepsOthers row.table t (t.add row) where
  zip3? h zip3 := by
    cases row with
    | zip3 r => exact absurd rfl h
    | _ => rfl
  distance? h origin destination := by
    cases row with
    | distance r => exact absurd rfl h
    | _ => rfl
  serviceAreaRates h code := by
    cases row with
    | serviceArea r => exact absurd rfl h
    | _ => rfl
  baseLinehaul h := by
    cases row with
    | baseLinehaul r => exact absurd rfl h
    | _ => rfl
  shorthaul h := by
    cases row with
    | shorthaul r => exact absurd rfl h
    | _ => rfl
  routeDiscounts h area region := by
    cases row with
    | discount r => exact absurd rfl h
    | _ => rfl

/-- Whatever rows are added to the empty tariff, in whatever order of the tables, it answers by the
log of these rows; and one more row changes the answers of its own table alone. -/
theorem records_addAll (rows : List TariffRow) :
    (empty.addAll rows).Records rows ∧
      ∀ row, KeepsOthers row.table (empty.addAll rows) (empty.addAll (rows ++ [row])) := by
  constructor
  · exact records_empty.addAll rows
  · intro row
    have hlast : empty.addAll (rows ++ [row]) = (empty.addAll rows).add row := by
      simp [addAll]
    rw [hlast]
    exact keepsOthers_add _ row

end Tariff

end MoveRating
