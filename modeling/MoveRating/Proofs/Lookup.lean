import MoveRating.Pricing.Route
import MoveRating.Proofs.Outcome

/-!
# Look-ups

When a look-up in a tariff succeeds, and with which row.

* `selectEffective_eq_ok_iff`: a row is selected if it is the only one that applies on the date.
  `selectEffective_of_forall_not` and `selectEffective_ne_ambiguous` are about its refusals.
* `Tariff.serviceAreaFor_eq_ok_iff` and `Tariff.resolveDiscount_eq_ok_iff` say the same of the rows
  of a postal area and of a route.
* `Tariff.rateFor?` is the rate of the first bracket that holds a shipment, told by exact integers.
-/

namespace MoveRating

/-! ### The row in effect -/

section

variable {ρ : Type} [EffectiveDated ρ] {rows : List ρ} {table : TariffTable} {key : String}
  {date : Date}

theorem selectEffective_eq_ok_iff {row : ρ} :
    selectEffective rows table key date = .ok row ↔ rows.filter (appliesOn date) = [row] := by
  unfold selectEffective
  split
  · next r hr => simp [hr]
  · next hr => simp [hr]
  · next h1 h2 =>
    simp only [reduceCtorEq, false_iff]
    exact h1 row

/-- If no row applies on the date, it matters whether there are rows at all. -/
theorem selectEffective_of_forall_not (h : ∀ row ∈ rows, appliesOn date row = false) :
    selectEffective rows table key date =
      .error (if rows.isEmpty then .noRow table key else .noRateForDate table key date) := by
  have hnil : rows.filter (appliesOn date) = [] :=
    List.filter_eq_nil_iff.2 fun row hrow => by simp [h row hrow]
  unfold selectEffective
  rw [hnil]

/-- Where at most one row applies, the selection is not ambiguous. -/
theorem selectEffective_ne_ambiguous (h : (rows.filter (appliesOn date)).length ≤ 1)
    {table' : TariffTable} {key' : String} {date' : Date} :
    selectEffective rows table key date ≠ .error (.ambiguousRate table' key' date') := by
  unfold selectEffective
  split
  · nofun
  · split <;> nofun
  · next h1 h2 =>
    cases hrows : rows.filter (appliesOn date) with
    | nil => exact absurd hrows h2
    | cons row rest =>
      cases rest with
      | nil => exact absurd hrows (h1 row)
      | cons row' rest =>
        rw [hrows, List.length_cons, List.length_cons] at h
        omega

/-- Where several rows apply, the selection is refused. -/
theorem selectEffective_of_two_le (h : 2 ≤ (rows.filter (appliesOn date)).length) :
    selectEffective rows table key date = .error (.ambiguousRate table key date) := by
  unfold selectEffective
  split
  · next r hr => simp [hr] at h
  · next hr => simp [hr] at h
  · rfl

/-- A selection is refused for want of a row or for having several. -/
theorem selectEffective_error_cases {why : RatingError}
    (h : selectEffective rows table key date = .error why) :
    why = .noRow table key ∨ why = .noRateForDate table key date ∨
      why = .ambiguousRate table key date := by
  unfold selectEffective at h
  split at h
  · cases h
  · split at h
    · cases h
      exact .inl rfl
    · cases h
      exact .inr (.inl rfl)
  · cases h
    exact .inr (.inr rfl)

end

namespace Tariff

variable {t : Tariff}

/-! ### Keyed rows -/

theorem require_eq_ok_iff {α : Type} {table : TariffTable} {key : String} {o : Option α} {a : α} :
    require table key o = .ok a ↔ o = some a := by
  cases o <;> simp [require]

theorem require_eq_error_iff {α : Type} {table : TariffTable} {key : String} {o : Option α}
    {why : RatingError} : require table key o = .error why ↔ o = none ∧ why = .noRow table key := by
  cases o with
  | none => simp [require, eq_comm]
  | some a => simp [require]

theorem zip3Row_eq_ok_iff {zip3 : UInt32} {row : Zip3} :
    t.zip3Row zip3 = .ok row ↔ t.zip3? zip3 = some row := require_eq_ok_iff

theorem milesBetween_eq_ok_iff {origin destination miles : UInt32} :
    t.milesBetween origin destination = .ok miles ↔
      t.distance? origin destination = some miles := require_eq_ok_iff

theorem serviceAreaFor_eq_of_zip3? {zip3 : UInt32} {row : Zip3} (h : t.zip3? zip3 = some row)
    (date : Date) :
    t.serviceAreaFor zip3 date = selectEffective (t.serviceAreaRates row.serviceArea) .serviceArea
      (Numeral.text row.serviceArea.toNat) date := by
  unfold serviceAreaFor
  rw [zip3Row_eq_ok_iff.2 h]
  rfl

theorem serviceAreaFor_eq_ok_iff {zip3 : UInt32} {date : Date} {area : ServiceAreaRate} :
    t.serviceAreaFor zip3 date = .ok area ↔ ∃ row, t.zip3? zip3 = some row ∧
      (t.serviceAreaRates row.serviceArea).filter (appliesOn date) = [area] := by
  unfold serviceAreaFor
  simp only [bind_eq_ok_iff, zip3Row_eq_ok_iff, selectEffective_eq_ok_iff]

/-! ### Discounts -/

theorem ofFraction_eq_ok_iff {fraction : Decimal} {rate : DiscountRate} :
    DiscountRate.ofFraction fraction = .ok rate ↔ fraction.isUnit = true ∧ rate = ⟨fraction⟩ := by
  unfold DiscountRate.ofFraction
  split
  · next h => simp [h, eq_comm]
  · next h => simp [h]

theorem rowDiscount_eq_ok_iff {row : RouteDiscountRate} {discount : RouteDiscount} :
    rowDiscount row = .ok discount ↔ row.linehaulRate.isUnit = true ∧ row.sitRate.isUnit = true ∧
      discount = ⟨⟨row.linehaulRate⟩, ⟨row.sitRate⟩⟩ := by
  unfold rowDiscount
  simp only [bind_eq_ok_iff, ofFraction_eq_ok_iff, pure_eq_ok_iff]
  constructor
  · rintro ⟨linehaul, ⟨hl, rfl⟩, sit, ⟨hs, rfl⟩, rfl⟩
    exact ⟨hl, hs, rfl⟩
  · rintro ⟨hl, hs, rfl⟩
    exact ⟨_, ⟨hl, rfl⟩, _, ⟨hs, rfl⟩, rfl⟩

theorem resolveDiscount_of_unknown_origin {origin : UInt32} (ho : t.zip3? (zip3Of origin) = none)
    (destination : UInt32) (date : Date) :
    t.resolveDiscount origin destination date =
      .error (.noRow .zip3 (Numeral.text (zip3Of origin).toNat)) := by
  unfold resolveDiscount zip3Row
  rw [ho]
  rfl

theorem resolveDiscount_of_unknown_destination {origin destination : UInt32} {originRow : Zip3}
    (ho : t.zip3? (zip3Of origin) = some originRow)
    (hd : t.zip3? (zip3Of destination) = none) (date : Date) :
    t.resolveDiscount origin destination date =
      .error (.noRow .zip3 (Numeral.text (zip3Of destination).toNat)) := by
  unfold resolveDiscount zip3Row
  rw [ho, hd]
  rfl

/-- The discount rows of the route between two postal areas. -/
theorem resolveDiscount_eq_of_zip3? {origin destination : UInt32} {originRow destinationRow : Zip3}
    (ho : t.zip3? (zip3Of origin) = some originRow)
    (hd : t.zip3? (zip3Of destination) = some destinationRow) (date : Date) :
    t.resolveDiscount origin destination date =
      ((selectEffective (t.routeDiscounts originRow.rateArea destinationRow.region) .discount
        (originRow.rateArea ++ " -> region " ++ Numeral.text destinationRow.region.toNat)
        date).mapError (missingDiscount (zip3Of origin) (zip3Of destination) date)) >>=
        rowDiscount := by
  unfold resolveDiscount
  rw [zip3Row_eq_ok_iff.2 ho, zip3Row_eq_ok_iff.2 hd]
  rfl

theorem resolveDiscount_eq_ok_iff {origin destination : UInt32} {date : Date}
    {discount : RouteDiscount} :
    t.resolveDiscount origin destination date = .ok discount ↔
      ∃ originRow destinationRow row, t.zip3? (zip3Of origin) = some originRow ∧
        t.zip3? (zip3Of destination) = some destinationRow ∧
        (t.routeDiscounts originRow.rateArea destinationRow.region).filter (appliesOn date) =
          [row] ∧
        rowDiscount row = .ok discount := by
  unfold resolveDiscount
  simp only [bind_eq_ok_iff, zip3Row_eq_ok_iff, mapError_eq_ok_iff, selectEffective_eq_ok_iff]
  constructor
  · rintro ⟨originRow, ho, destinationRow, hd, row, hrow, hdiscount⟩
    exact ⟨originRow, destinationRow, row, ho, hd, hrow, hdiscount⟩
  · rintro ⟨originRow, destinationRow, row, ho, hd, hrow, hdiscount⟩
    exact ⟨originRow, ho, destinationRow, hd, row, hrow, hdiscount⟩

/-- The discounts of a route lie between zero and one. -/
theorem isUnit_of_resolveDiscount {origin destination : UInt32} {date : Date}
    {discount : RouteDiscount} (h : t.resolveDiscount origin destination date = .ok discount) :
    discount.linehaul.fraction.isUnit = true ∧ discount.sit.fraction.isUnit = true := by
  obtain ⟨-, -, row, -, -, -, hrow⟩ := resolveDiscount_eq_ok_iff.1 h
  obtain ⟨hl, hs, rfl⟩ := rowDiscount_eq_ok_iff.1 hrow
  exact ⟨hl, hs⟩

end Tariff

/-! ### Brackets -/

/-- The bracket holds a mileage and an exact weight. -/
def BaseLinehaulRate.holds (r : BaseLinehaulRate) (miles : UInt32) (cwt : Int) : Bool :=
  decide (r.milesLower ≤ miles) && decide (miles < r.milesUpper) &&
    (decide (r.cwtLower.toInt ≤ cwt) && decide (cwt < r.cwtUpper.toInt))

/-- The bracket holds an exact figure of hundredweight-miles. -/
def ShorthaulRate.holds (r : ShorthaulRate) (cwtMiles : Int) : Bool :=
  decide (r.cwtMilesLower.toInt ≤ cwtMiles) && decide (cwtMiles < r.cwtMilesUpper.toInt)

theorem BaseLinehaulRate.holds_iff {r : BaseLinehaulRate} {miles : UInt32} {cwt : Int} :
    r.holds miles cwt = true ↔ (r.milesLower ≤ miles ∧ miles < r.milesUpper) ∧
      r.cwtLower.toInt ≤ cwt ∧ cwt < r.cwtUpper.toInt := by
  simp [holds]

theorem ShorthaulRate.holds_iff {r : ShorthaulRate} {cwtMiles : Int} :
    r.holds cwtMiles = true ↔
      r.cwtMilesLower.toInt ≤ cwtMiles ∧ cwtMiles < r.cwtMilesUpper.toInt := by
  simp [holds]

theorem BaseLinehaulRate.covers_eq_holds (r : BaseLinehaulRate) (miles : UInt32) (cwt : Int64) :
    r.covers miles cwt = r.holds miles cwt.toInt := by
  simp only [covers, holds, Int64.le_iff_toInt_le, Int64.lt_iff_toInt_lt]

theorem ShorthaulRate.covers_eq_holds (r : ShorthaulRate) (cwtMiles : Int64) :
    r.covers cwtMiles = r.holds cwtMiles.toInt := by
  simp only [covers, holds, Int64.le_iff_toInt_le, Int64.lt_iff_toInt_lt]

namespace Tariff

section

variable {t : Tariff} {mileage : UInt32} {cwt : Cwt} {charge : Cents}

theorem baseLinehaulCharge_eq_ok_iff :
    t.baseLinehaulCharge mileage cwt = .ok charge ↔ ∃ bracket,
      t.baseLinehaul.find? (·.covers mileage cwt.val) = some bracket ∧
        bracket.rate.perCwt cwt = .ok charge := by
  unfold baseLinehaulCharge
  simp only [bind_eq_ok_iff, lift_refusal, lift_overflow, mapError_eq_ok_iff, require_eq_ok_iff]

theorem shorthaulCharge_eq_ok_iff :
    t.shorthaulCharge mileage cwt = .ok charge ↔ ∃ cwtMiles,
      checkedMul (Int64.ofNat mileage.toNat) cwt.val = .ok cwtMiles ∧ ∃ bracket,
        t.shorthaul.find? (·.covers cwtMiles) = some bracket ∧
          bracket.rate.perCwt cwt = .ok charge := by
  unfold shorthaulCharge
  simp only [bind_eq_ok_iff, lift_refusal, lift_overflow, mapError_eq_ok_iff, require_eq_ok_iff]

end

variable (t : Tariff)

/-- The rate of the first longhaul bracket that holds a shipment. -/
def longhaulRate? (miles : UInt32) (cwt : Int) : Option Cents :=
  (t.baseLinehaul.find? (·.holds miles cwt)).map (·.rate)

/-- The rate of the first shorthaul bracket that holds a figure. -/
def shorthaulRate? (cwtMiles : Int) : Option Cents :=
  (t.shorthaul.find? (·.holds cwtMiles)).map (·.rate)

/-- The rate of the first bracket that holds a shipment, in the table that the mileage selects. -/
def rateFor? (miles : UInt32) (cwt : Int) : Option Cents :=
  if miles.toNat < 800 then t.shorthaulRate? (miles.toNat * cwt) else t.longhaulRate? miles cwt

end Tariff

end MoveRating
