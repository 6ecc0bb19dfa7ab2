import MoveRating.Proofs.Deviation
import MoveRating.Proofs.Rating

/-!
# How the discounts of a route are resolved

Resolving the discounts of a route has five ends, told by the rows of its two postal areas and by
the discount rows of its key that apply on the date.

* `DiscountVerdict` says which end goes with which rows, and when.
* `Tariff.discountVerdict` : the look-up of a route between known areas keeps it.
* `Tariff.resolveDiscount_verdict` : so does every look-up, in which an unknown area is refused
  first. No refusal of the selection of rows comes through.
-/

namespace MoveRating

open DiscountRate (InRange)

/-- The report of a rate that is not in range. -/
def DiscountRate.outside (rate : DiscountRate) : RatingError :=
  .invalidInput "discount_rate" s!"{rate.fraction.text} is outside [0, 1]"

/-- What resolving the discounts between two postal areas comes to, if `rows` are the rows under the
key of the route that apply on the date. -/
structure DiscountVerdict (origin destination : UInt32) (date : Date) (key : String)
    (rows : List RouteDiscountRate) (outcome : Except RatingError RouteDiscount) : Prop where
  /-- No row applies, whether or not there are rows for other dates. -/
  uncovered : ∀ origin' destination' date',
    outcome = .error (.noDiscount origin' destination' date') ↔
      rows = [] ∧ origin' = origin ∧ destination' = destination ∧ date' = date
  /-- Several rows apply. -/
  ambiguous : ∀ table key' date', outcome = .error (.ambiguousRate table key' date') ↔
    2 ≤ rows.length ∧ table = .discount ∧ key' = key ∧ date' = date
  /-- The one row that applies has a rate out of range. The first one is reported. -/
  outOfRange : ∀ field message, outcome = .error (.invalidInput field message) ↔
    ∃ row, rows = [row] ∧
      (¬InRange ⟨row.linehaulRate⟩ ∧
          .invalidInput field message = DiscountRate.outside ⟨row.linehaulRate⟩ ∨
        InRange ⟨row.linehaulRate⟩ ∧ ¬InRange ⟨row.sitRate⟩ ∧
          .invalidInput field message = DiscountRate.outside ⟨row.sitRate⟩)
  /-- The one row that applies has its rates in range. -/
  resolved : ∀ discount, outcome = .ok discount ↔
    ∃ row, rows = [row] ∧ InRange ⟨row.linehaulRate⟩ ∧ InRange ⟨row.sitRate⟩ ∧
      discount = ⟨⟨row.linehaulRate⟩, ⟨row.sitRate⟩⟩
  /-- The selection of a row is not refused for want of rows. -/
  ne_noRow : ∀ table key', outcome ≠ .error (.noRow table key')
  /-- Nor is it refused for want of a row on the date. -/
  ne_noRateForDate : ∀ table key' date', outcome ≠ .error (.noRateForDate table key' date')

namespace Tariff

variable {t : Tariff} {origin destination : UInt32} {date : Date} {key : String}
  {rows : List RouteDiscountRate}

theorem ofFraction_eq_error_iff {fraction : Decimal} {why : RatingError} :
    DiscountRate.ofFraction fraction = .error why ↔
      ¬InRange ⟨fraction⟩ ∧ why = DiscountRate.outside ⟨fraction⟩ := by
  rw [DiscountRate.inRange_iff]
  unfold DiscountRate.ofFraction
  split
  · next h => simp [h]
  · next h => simp [h, DiscountRate.outside, eq_comm]

/-- The discounts of a row are refused for the first of its rates that is out of range. -/
theorem rowDiscount_eq_error_iff {row : RouteDiscountRate} {why : RatingError} :
    rowDiscount row = .error why ↔
      ¬InRange ⟨row.linehaulRate⟩ ∧ why = DiscountRate.outside ⟨row.linehaulRate⟩ ∨
        InRange ⟨row.linehaulRate⟩ ∧ ¬InRange ⟨row.sitRate⟩ ∧
          why = DiscountRate.outside ⟨row.sitRate⟩ := by
  unfold rowDiscount
  simp only [bind_eq_error_iff, ofFraction_eq_error_iff, ofFraction_eq_ok_iff, pure_ne_error,
    and_false, exists_false, or_false]
  refine or_congr_right ⟨?_, ?_⟩
  · rintro ⟨linehaul, ⟨hunit, -⟩, hsit⟩
    exact ⟨DiscountRate.inRange_iff.2 hunit, hsit⟩
  · rintro ⟨hrange, hsit⟩
    exact ⟨_, ⟨DiscountRate.inRange_iff.1 hrange, rfl⟩, hsit⟩

/-! ### Rows that apply -/

theorem discountVerdict_nil :
    DiscountVerdict origin destination date key []
      (.error (.noDiscount origin destination date)) where
  uncovered := by simp [eq_comm]
  ambiguous := by simp
  outOfRange := by simp
  resolved := by simp
  ne_noRow := by simp
  ne_noRateForDate := by simp

theorem discountVerdict_singleton (row : RouteDiscountRate) :
    DiscountVerdict origin destination date key [row] (rowDiscount row) where
  uncovered := by simp [rowDiscount_eq_error_iff, DiscountRate.outside]
  ambiguous := by simp [rowDiscount_eq_error_iff, DiscountRate.outside]
  outOfRange := by simp [rowDiscount_eq_error_iff]
  resolved := by simp [rowDiscount_eq_ok_iff, DiscountRate.inRange_iff]
  ne_noRow := by simp [rowDiscount_eq_error_iff, DiscountRate.outside]
  ne_noRateForDate := by simp [rowDiscount_eq_error_iff, DiscountRate.outside]

theorem discountVerdict_several (row row' : RouteDiscountRate) (rest : List RouteDiscountRate) :
    DiscountVerdict origin destination date key (row :: row' :: rest)
      (.error (.ambiguousRate .discount key date)) where
  uncovered := by simp
  ambiguous := by simp [eq_comm]
  outOfRange := by simp
  resolved := by simp
  ne_noRow := by simp
  ne_noRateForDate := by simp

/-! ### Look-ups -/

/-- The verdict on a route between known areas, by the discount rows that apply on the date. -/
theorem discountVerdict {originRow destinationRow : Zip3}
    (ho : t.zip3? (zip3Of origin) = some originRow)
    (hd : t.zip3? (zip3Of destination) = some destinationRow) (date : Date) :
    DiscountVerdict (zip3Of origin) (zip3Of destination) date
      (originRow.rateArea ++ " -> region " ++ Numeral.text destinationRow.region.toNat)
      ((t.routeDiscounts originRow.rateArea destinationRow.region).filter (appliesOn date))
      (t.resolveDiscount origin destination date) := by
  rw [resolveDiscount_eq_of_zip3? ho hd date]
  generalize originRow.rateArea ++ " -> region " ++ Numeral.text destinationRow.region.toNat = key
  generalize t.routeDiscounts originRow.rateArea destinationRow.region = rows
  cases hrows : rows.filter (appliesOn date) with
  | nil =>
    have hnone := List.filter_eq_nil_iff.1 hrows
    rw [selectEffective_of_forall_not fun row hrow => Bool.eq_false_iff.2 (hnone row hrow)]
    -- whether there are other rows under the key makes no difference
    split
    · exact discountVerdict_nil
    · exact discountVerdict_nil
  | cons row rest =>
    cases rest with
    | nil =>
      rw [selectEffective_eq_ok_iff.2 hrows]
      exact discountVerdict_singleton row
    | cons row' rest =>
      rw [selectEffective_of_two_le (by simp [hrows])]
      exact discountVerdict_several row row' rest

/-- The discounts of a route are refused for an unknown area, the origin first, and otherwise end as
the discount rows of the route say that apply on the date: without a row there is no discount,
several are ambiguous, and the rates of a single one must be in range. -/
theorem resolveDiscount_verdict (t : Tariff) (origin destination : UInt32) (date : Date) :
    (∀ table key, t.resolveDiscount origin destination date = .error (.noRow table key) ↔
      table = .zip3 ∧
        (t.zip3? (zip3Of origin) = none ∧ key = Numeral.text (zip3Of origin).toNat ∨
          t.zip3? (zip3Of origin) ≠ none ∧ t.zip3? (zip3Of destination) = none ∧
            key = Numeral.text (zip3Of destination).toNat)) ∧
    (∀ table key date',
      t.resolveDiscount origin destination date ≠ .error (.noRateForDate table key date')) ∧
    ∀ originRow destinationRow, t.zip3? (zip3Of origin) = some originRow →
      t.zip3? (zip3Of destination) = some destinationRow →
      DiscountVerdict (zip3Of origin) (zip3Of destination) date
        (originRow.rateArea ++ " -> region " ++ Numeral.text destinationRow.region.toNat)
        ((t.routeDiscounts originRow.rateArea destinationRow.region).filter (appliesOn date))
        (t.resolveDiscount origin destination date) := by
  cases ho : t.zip3? (zip3Of origin) with
  | none =>
    rw [resolveDiscount_of_unknown_origin ho]
    simp [eq_comm]
  | some originRow =>
    cases hd : t.zip3? (zip3Of destination) with
    | none =>
      rw [resolveDiscount_of_unknown_destination ho hd]
      simp [eq_comm]
    | some destinationRow =>
      have hverdict := discountVerdict ho hd date
      refine ⟨fun table key => ?_, hverdict.ne_noRateForDate, ?_⟩
      · exact iff_of_false (hverdict.ne_noRow table key) (by simp)
      · rintro _ _ ⟨⟩ ⟨⟩
        exact hverdict

/-- The discounts of `RateSheet.sample`, but with more than all taken off the storage. -/
def overdiscount : RouteDiscountRate :=
  { RateSheet.sample.discount with sitRate := ⟨false, 125, 2, by decide, by decide⟩ }

/-- A tariff with these discounts, which no loader has seen. -/
def overdiscounted : Tariff :=
  Tariff.empty.addAll
    [.zip3 RateSheet.sample.origin, .zip3 RateSheet.sample.destination, .discount overdiscount]

theorem resolveDiscount_verdict_overdiscounted :
    overdiscounted.zip3? (zip3Of 1001) = some RateSheet.sample.origin ∧
      overdiscounted.zip3? (zip3Of 2072) = some RateSheet.sample.destination ∧
      overdiscounted.resolveDiscount 1001 2072 ⟨2018, 6, 1, by decide⟩ =
        .error (.invalidInput "discount_rate" "1.25 is outside [0, 1]") := by
  have ho : overdiscounted.zip3? (zip3Of 1001) = some RateSheet.sample.origin := by decide +kernel
  have hd : overdiscounted.zip3? (zip3Of 2072) = some RateSheet.sample.destination := by
    decide +kernel
  obtain ⟨-, -, hverdict⟩ := resolveDiscount_verdict overdiscounted 1001 2072
    ⟨2018, 6, 1, by decide⟩
  refine ⟨ho, hd, ((hverdict _ _ ho hd).outOfRange _ _).2
    ⟨overdiscount, by decide +kernel, .inr ⟨?_, ?_, ?_⟩⟩⟩
  · exact DiscountRate.inRange_iff.2 (by decide +kernel)
  · exact mt DiscountRate.inRange_iff.1 (by decide +kernel)
  · decide +kernel

end Tariff

end MoveRating
