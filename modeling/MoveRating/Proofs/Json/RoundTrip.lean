import MoveRating.Proofs.Json.Estimates
import MoveRating.Service.Estimates
import MoveRating.Wire.Rows

/-!
# Round trips

Tables, requests, estimates and reimbursements are read back as they were written, in whatever
order the members of their objects stand.

* `Json.ReadsBack α same` : every text of a value of `α` is read as a value that is the same, and
  what is written for the value is one of its texts.
* `Json.readsBack_all` : this holds of all types that are written. Values with decimals come back
  with decimals of the same value and as many places, all others as they were.
-/

namespace MoveRating

namespace Json

variable {α : Type} [Wire α]

variable (α) in
/-- Every text of a value, also the one that is written, is read as a value that is the same. -/
def ReadsBack (same : α → α → Prop) : Prop :=
  ∀ a : α, IsTextOf a (write a) ∧
    ∀ t, IsTextOf a t → ∃ a', parse? α t = .ok a' ∧ same a' a

theorem Faithful.readsBack {plain : α → α} {same : α → α → Prop} (h : Faithful plain)
    (hsame : ∀ a, same (plain a) a) : ReadsBack α same := by
  intro a
  refine ⟨h.isTextOf_write a, ?_⟩
  intro t ht
  exact ⟨plain a, h.parse?_of_isTextOf ht, hsame a⟩

theorem Faithful.readsBack_eq (h : Faithful (id : α → α)) : ReadsBack α Eq :=
  h.readsBack fun _ => rfl

end Json

/-! ### Rows of a tariff -/

theorem EffectiveRange.faithful : Json.Faithful (id : EffectiveRange → EffectiveRange) where
  isOf _ := ItemsOf.isOf_row ⟨by decide, by simp [RowShape.allFields_of_dates_eq_nil, names]⟩
  ofValue?_plain _ := rfl

theorem Zip3.faithful : Json.Faithful (id : Zip3 → Zip3) where
  isOf _ := ItemsOf.isOf_row ⟨by decide, by simp [RowShape.allFields_of_dates_eq_nil, row]⟩
  ofValue?_plain _ := rfl

theorem ZipDistance.faithful : Json.Faithful (id : ZipDistance → ZipDistance) where
  isOf _ := ItemsOf.isOf_row ⟨by decide, by simp [RowShape.allFields_of_dates_eq_nil, row]⟩
  ofValue?_plain _ := rfl

theorem ServiceAreaRate.faithful : Json.Faithful (id : ServiceAreaRate → ServiceAreaRate) where
  isOf _ := ItemsOf.isOf_row ⟨by decide, by simp [RowShape.allFields, RowShape.dateFields, row,
    EffectiveRange.names]⟩
  ofValue?_plain _ := rfl

theorem BaseLinehaulRate.faithful : Json.Faithful (id : BaseLinehaulRate → BaseLinehaulRate) where
  isOf _ := ItemsOf.isOf_row ⟨by decide, by simp [RowShape.allFields_of_dates_eq_nil, row]⟩
  ofValue?_plain _ := rfl

theorem ShorthaulRate.faithful : Json.Faithful (id : ShorthaulRate → ShorthaulRate) where
  isOf _ := ItemsOf.isOf_row ⟨by decide, by simp [RowShape.allFields_of_dates_eq_nil, row]⟩
  ofValue?_plain _ := rfl

/-! ### Discounts -/

/-- The decimals have the same value and as many places. -/
def Decimal.Same (a b : Decimal) : Prop := a.cmp b = .eq ∧ a.places = b.places

theorem Decimal.same_plain (d : Decimal) : d.plain.Same d := ⟨d.cmp_plain, rfl⟩

namespace RouteDiscount

/-- The discounts without the signs of zeros. -/
def plain (d : RouteDiscount) : RouteDiscount := ⟨d.linehaul.plain, d.sit.plain⟩

/-- Both discounts are the same. -/
def Same (a b : RouteDiscount) : Prop := a.linehaul.Same b.linehaul ∧ a.sit.Same b.sit

theorem same_plain (d : RouteDiscount) : d.plain.Same d :=
  ⟨d.linehaul.same_plain, d.sit.same_plain⟩

theorem faithful : Json.Faithful plain where
  isOf d := ItemsOf.isOf_row d.itemsOf_toItems
  ofValue?_plain _ := rfl

end RouteDiscount

namespace RouteDiscountRate

/-- The row with discounts without the signs of zeros. -/
def plain (r : RouteDiscountRate) : RouteDiscountRate :=
  { r with linehaulRate := r.linehaulRate.plain, sitRate := r.sitRate.plain }

/-- The rows differ in nothing but the way in which the discounts are kept. -/
def Same (a b : RouteDiscountRate) : Prop :=
  { a with linehaulRate := b.linehaulRate, sitRate := b.sitRate } = b ∧
    a.linehaulRate.Same b.linehaulRate ∧ a.sitRate.Same b.sitRate

theorem same_plain (r : RouteDiscountRate) : r.plain.Same r :=
  ⟨rfl, r.linehaulRate.same_plain, r.sitRate.same_plain⟩

theorem faithful : Json.Faithful plain where
  isOf _ := ItemsOf.isOf_row ⟨by decide, by simp [RowShape.allFields, RowShape.dateFields, row,
    EffectiveRange.names]⟩
  ofValue?_plain _ := rfl

end RouteDiscountRate

/-! ### Charges and reimbursements -/

theorem LinehaulCost.faithful : Json.Faithful (id : LinehaulCost → LinehaulCost) where
  isOf c := ItemsOf.isOf_row c.itemsOf_toItems
  ofValue?_plain c := c.ofItems?_plain

@[simp] theorem ReimbursementStatus.isOf_kind (s : ReimbursementStatus) :
    (Scalar.name s.name).IsOf kind :=
  Scalar.isOf_name (by cases s <;> decide)

@[simp] theorem MethodOfReceipt.isOf_kind (m : MethodOfReceipt) :
    (Scalar.name m.name).IsOf kind :=
  Scalar.isOf_name (by cases m <;> decide)

theorem ReimbursementStatus.named?_name (s : ReimbursementStatus) :
    named? name all s.name = some s := by
  cases s <;> rfl

theorem MethodOfReceipt.named?_name (m : MethodOfReceipt) : named? name all m.name = some m := by
  cases m <;> rfl

theorem Reimbursement.faithful : Json.Faithful fun r : Reimbursement => r where
  isOf r := by
    obtain ⟨id, amount, method, status, date⟩ := r
    refine ItemsOf.isOf_row ⟨by decide, ?_⟩
    cases date with
    | none => simp [RowShape.allFields_of_dates_eq_nil]
    | some date => simp [RowShape.allFields_of_dates_eq_nil]
  ofValue?_plain r := by
    obtain ⟨id, amount, method, status, date⟩ := r
    -- What is left once the date is known holds no `match` of the reader's.
    cases date with
    | none =>
      change ((named? MethodOfReceipt.name MethodOfReceipt.all method.name).bind fun method =>
        (named? ReimbursementStatus.name ReimbursementStatus.all status.name).bind fun status =>
          some (Reimbursement.mk id amount method status none)) = _
      rw [method.named?_name, status.named?_name]
      rfl
    | some date =>
      change ((named? MethodOfReceipt.name MethodOfReceipt.all method.name).bind fun method =>
        (named? ReimbursementStatus.name ReimbursementStatus.all status.name).bind fun status =>
          some (Reimbursement.mk id amount method status (some date))) = _
      rw [method.named?_name, status.named?_name]
      rfl

/-! ### Requests -/

theorem PpmEstimateRequest.faithful :
    Json.Faithful (id : PpmEstimateRequest → PpmEstimateRequest) where
  isOf _ := ItemsOf.isOf_row ⟨by decide, by simp [RowShape.allFields_of_dates_eq_nil]⟩
  ofValue?_plain _ := rfl

theorem SitEstimateRequest.faithful :
    Json.Faithful (id : SitEstimateRequest → SitEstimateRequest) where
  isOf _ := ItemsOf.isOf_row
    ⟨by decide, by simp [RowShape.allFields_of_dates_eq_nil, estimateRequestFields]⟩
  ofValue?_plain _ := rfl

theorem PpmEstimateBody.faithful : Json.Faithful (id : PpmEstimateBody → PpmEstimateBody) where
  isOf _ := ItemsOf.isOf_row
    ⟨by decide, by simp [RowShape.allFields_of_dates_eq_nil, estimateRequestFields]⟩
  ofValue?_plain _ := rfl

/-! ### All types -/

/-- Every value is read back from each of its texts, in whatever order the members of its objects
stand. It is the value that was written, or the same but for the signs of decimals that are
zero. -/
theorem Json.readsBack_all :
    (ReadsBack Zip3 Eq ∧ ReadsBack ZipDistance Eq ∧ ReadsBack ServiceAreaRate Eq ∧
      ReadsBack BaseLinehaulRate Eq ∧ ReadsBack ShorthaulRate Eq ∧
      ReadsBack RouteDiscountRate RouteDiscountRate.Same) ∧
    (ReadsBack EffectiveRange Eq ∧ ReadsBack RouteDiscount RouteDiscount.Same ∧
      ReadsBack LinehaulCost Eq ∧ ReadsBack Reimbursement Eq) ∧
    (ReadsBack PpmEstimateRequest Eq ∧ ReadsBack SitEstimateRequest Eq ∧
      ReadsBack PpmEstimateBody Eq) ∧
    ReadsBack PpmEstimate PpmEstimate.Same ∧ ReadsBack SitEstimate SitEstimate.Same ∧
    ReadsBack ApiError Eq := by
  refine ⟨⟨Zip3.faithful.readsBack_eq, ZipDistance.faithful.readsBack_eq,
    ServiceAreaRate.faithful.readsBack_eq, BaseLinehaulRate.faithful.readsBack_eq,
    ShorthaulRate.faithful.readsBack_eq, ?_⟩,
    ⟨EffectiveRange.faithful.readsBack_eq, ?_, LinehaulCost.faithful.readsBack_eq,
      Reimbursement.faithful.readsBack_eq⟩,
    ⟨PpmEstimateRequest.faithful.readsBack_eq, SitEstimateRequest.faithful.readsBack_eq,
      PpmEstimateBody.faithful.readsBack_eq⟩, ?_, ?_, ApiError.faithful.readsBack_eq⟩
  · exact RouteDiscountRate.faithful.readsBack RouteDiscountRate.same_plain
  · exact RouteDiscount.faithful.readsBack RouteDiscount.same_plain
  · exact PpmEstimate.faithful.readsBack PpmEstimate.same_plain
  · exact SitEstimate.faithful.readsBack SitEstimate.same_plain

/-- The members of an object may stand in reverse, the dates before the discounts. -/
example : Json.IsTextOf
    (⟨"US28", 13, .zero, ⟨false, 5, 1, by decide, by decide⟩,
      ⟨⟨2018, 5, 15, by decide⟩, ⟨2019, 5, 15, by decide⟩⟩⟩ : RouteDiscountRate)
    ("\x7b\"effective_date_upper\":\"2019-05-15\",\"effective_date_lower\":\"2018-05-15\"," ++
      "\"sit_rate\":\"0.5\",\"linehaul_rate\":\"0\",\"destination_region\":13," ++
      "\"origin_rate_area\":\"US28\"\x7d") :=
  .row ⟨_, List.reverse_perm _, by decide +kernel⟩

end MoveRating
