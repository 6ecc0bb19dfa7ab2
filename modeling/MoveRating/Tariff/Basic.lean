import MoveRating.Table
import MoveRating.Tariff.Row

/-!
# Tariffs

A tariff is six tables of rows.

* `Tariff.add` adds a row. A postal area and an ordered pair of areas have one row each, of which
  the last one added counts; service areas and routes gather their rows, and brackets are kept in
  the order in which they come.
* `Tariff.zip3?`, `Tariff.distance?`, `Tariff.serviceAreaRates` and `Tariff.routeDiscounts` look
  rows up.
-/

namespace MoveRating

/-- The reference tables by which moves are rated. -/
structure Tariff where
  /-- The rating geography by postal area. -/
  zip3s : Table UInt32 Zip3
  /-- The miles from an origin to a destination. -/
  distances : Table (UInt32 × UInt32) UInt32
  /-- The rates by service area. -/
  serviceAreas : Table UInt32 (List ServiceAreaRate)
  /-- The longhaul brackets, in order. -/
  baseLinehaul : List BaseLinehaulRate
  /-- The shorthaul brackets, in order. -/
  shorthaul : List ShorthaulRate
  /-- The discounts by rate area of the origin and region of the destination. -/
  discounts : Table (String × UInt32) (List RouteDiscountRate)
deriving Repr

/-- A row of one of the six tables. -/
inductive TariffRow where
  | zip3 (row : Zip3)
  | distance (row : ZipDistance)
  | serviceArea (row : ServiceAreaRate)
  | baseLinehaul (row : BaseLinehaulRate)
  | shorthaul (row : ShorthaulRate)
  | discount (row : RouteDiscountRate)
deriving DecidableEq, Repr

namespace Tariff

/-- The tariff without rows. -/
def empty : Tariff := ⟨.empty, .empty, .empty, [], [], .empty⟩

/-- The tariff with one more row. -/
def add (t : Tariff) : TariffRow → Tariff
  | .zip3 r => { t with zip3s := t.zip3s.put r.zip3 r }
  | .distance r => { t with distances := t.distances.put (r.originZip3, r.destinationZip3) r.miles }
  | .serviceArea r => { t with serviceAreas := t.serviceAreas.push r.serviceArea r }
  | .baseLinehaul r => { t with baseLinehaul := t.baseLinehaul ++ [r] }
  | .shorthaul r => { t with shorthaul := t.shorthaul ++ [r] }
  | .discount r =>
    { t with discounts := t.discounts.push (r.originRateArea, r.destinationRegion) r }

/-- The tariff with some more rows, added in order. -/
def addAll (t : Tariff) (rows : List TariffRow) : Tariff := rows.foldl add t

/-- The row of a postal area. -/
def zip3? (t : Tariff) (zip3 : UInt32) : Option Zip3 := t.zip3s.get? zip3

/-- The miles from one postal area to another. -/
def distance? (t : Tariff) (origin destination : UInt32) : Option UInt32 :=
  t.distances.get? (origin, destination)

/-- The rows of a service area, in the order in which they came. -/
def serviceAreaRates (t : Tariff) (serviceArea : UInt32) : List ServiceAreaRate :=
  t.serviceAreas.group serviceArea

/-- The rows of a route, in the order in which they came. -/
def routeDiscounts (t : Tariff) (originRateArea : String) (destinationRegion : UInt32) :
    List RouteDiscountRate :=
  t.discounts.group (originRateArea, destinationRegion)

end Tariff

end MoveRating
