import MoveRating.Proofs.Json.Texts
import MoveRating.Service.ApiError
import MoveRating.Wire.Estimates

/-!
# Estimates and errors read back

The bodies of answers are read back as what they were written for.

* `SitEstimate.parse?_write`, `PpmEstimate.parse?_write` : an estimate is read back, but for the
  sign of a rate that is zero; so it is the same estimate (`SitEstimate.Same`, `PpmEstimate.Same`).
* `ApiError.parse?_write` : an error is read back as it was.
-/

namespace MoveRating

/-! ### Rates -/

/-- The rate without the sign of a zero. -/
def DiscountRate.plain (r : DiscountRate) : DiscountRate := ⟨r.fraction.plain⟩

/-- The rates have the same value and as many places. -/
def DiscountRate.Same (a b : DiscountRate) : Prop :=
  a.cmp b = .eq ∧ a.fraction.places = b.fraction.places

theorem DiscountRate.same_plain (r : DiscountRate) : r.plain.Same r :=
  ⟨r.fraction.cmp_plain, rfl⟩

theorem DiscountRate.faithful : Json.Faithful plain where
  isOf r := Scalar.isOf_decimal r.fraction
  ofValue?_plain _ := rfl

/-! ### Estimates of storage -/

namespace SitEstimate

/-- The estimate with a rate without the sign of a zero. -/
def plain (e : SitEstimate) : SitEstimate := { e with discountRate := e.discountRate.plain }

/-- The estimates differ in nothing but the way in which the rate is kept. -/
def Same (a b : SitEstimate) : Prop :=
  { a with discountRate := b.discountRate } = b ∧ a.discountRate.Same b.discountRate

theorem same_plain (e : SitEstimate) : e.plain.Same e := ⟨rfl, e.discountRate.same_plain⟩

theorem faithful : Json.Faithful plain where
  isOf _ := ItemsOf.isOf_row ⟨by decide, by simp [RowShape.allFields_of_dates_eq_nil]⟩
  ofValue?_plain _ := rfl

theorem parse?_write (e : SitEstimate) : Json.parse? SitEstimate (Json.write e) = .ok e.plain :=
  faithful.parse?_write e

end SitEstimate

/-! ### Estimates of moves -/

@[simp] theorem Haul.isOf_kind (h : Haul) : (Scalar.name h.name).IsOf kind :=
  Scalar.isOf_name (by cases h <;> decide)

theorem LinehaulCost.itemsOf_toItems (c : LinehaulCost) : ItemsOf fields c.toItems :=
  ⟨by decide, by simp [fields, toItems]⟩

theorem LinehaulCost.ofItems?_plain (c : LinehaulCost) :
    ofItems? (c.toItems.map Item.plain) = some c := by
  obtain ⟨mileage, cwt, haul, transportation, origin, destination, total⟩ := c
  cases haul <;> rfl

theorem RouteDiscount.itemsOf_toItems (d : RouteDiscount) : ItemsOf fields d.toItems :=
  ⟨by decide, by simp [fields, toItems]⟩

namespace PpmEstimate

/-- The estimate with rates without the signs of zeros. -/
def plain (e : PpmEstimate) : PpmEstimate :=
  { e with discount := ⟨e.discount.linehaul.plain, e.discount.sit.plain⟩ }

/-- The estimates differ in nothing but the way in which the rates are kept. -/
def Same (a b : PpmEstimate) : Prop :=
  { a with discount := b.discount } = b ∧ a.discount.linehaul.Same b.discount.linehaul ∧
    a.discount.sit.Same b.discount.sit

theorem same_plain (e : PpmEstimate) : e.plain.Same e :=
  ⟨rfl, e.discount.linehaul.same_plain, e.discount.sit.same_plain⟩

theorem faithful : Json.Faithful plain where
  isOf e := by
    refine ⟨by decide, ?_⟩
    simp [Cell.IsOf, Member.amount, Cell.amount, e.linehaul.itemsOf_toItems,
      e.discount.itemsOf_toItems]
  ofValue?_plain e := by
    change ((LinehaulCost.ofItems? (e.linehaul.toItems.map Item.plain)).bind fun linehaul =>
      (RouteDiscount.ofItems? (e.discount.toItems.map Item.plain)).bind fun discount =>
        some (PpmEstimate.mk linehaul e.originServiceCharge e.destinationServiceCharge e.sit
          discount e.linehaulNet e.serviceChargesNet e.sitNet e.grossTotal e.netTotal)) = _
    rw [e.linehaul.ofItems?_plain]
    rfl

theorem parse?_write (e : PpmEstimate) : Json.parse? PpmEstimate (Json.write e) = .ok e.plain :=
  faithful.parse?_write e

end PpmEstimate

/-! ### Errors -/

theorem ApiError.faithful : Json.Faithful (id : ApiError → ApiError) where
  isOf e := by
    obtain ⟨code, message, details⟩ := e
    refine ItemsOf.isOf_row ⟨by decide, ?_⟩
    cases details with
    | none => simp [RowShape.allFields_of_dates_eq_nil]
    | some details => simp [RowShape.allFields_of_dates_eq_nil]
  ofValue?_plain e := by
    obtain ⟨code, message, details⟩ := e
    cases details with
    | none => rfl
    | some details => rfl

theorem ApiError.parse?_write (e : ApiError) : Json.parse? ApiError (Json.write e) = .ok e :=
  faithful.parse?_write e

end MoveRating
