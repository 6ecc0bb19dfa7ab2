import MoveRating.Pricing.Estimate
import MoveRating.Proofs.Outcome

/-!
# Operations on a tariff

* `Operation` lists all that can be asked of a tariff, and `Tariff.perform` answers it.
* `Tariff.Refusals t E` says that `E` holds of what the two look-ups by date are refused for, and of
  the plain refusals. Then it holds of all refusals of all operations (`refusesOnly_perform`).
-/

namespace MoveRating

/-- A question to a tariff, with the type of its answers. -/
inductive Operation : Type → Type where
  | zip3Row (zip3 : UInt32) : Operation Zip3
  | serviceAreaFor (zip3 : UInt32) (date : Date) : Operation ServiceAreaRate
  | milesBetween (origin destination : UInt32) : Operation UInt32
  | milesBetweenCodes (origin destination : UInt32) : Operation UInt32
  | baseLinehaulCharge (mileage : UInt32) (cwt : Cwt) : Operation Cents
  | shorthaulCharge (mileage : UInt32) (cwt : Cwt) : Operation Cents
  | transportation (mileage : UInt32) (cwt : Cwt) : Operation (Haul × Cents)
  | linehaulFactor (cwt : Cwt) (zip3 : UInt32) (date : Date) : Operation Cents
  | serviceCharge (cwt : Cwt) (zip3 : UInt32) (date : Date) : Operation Cents
  | linehaulCost (weight : Pounds) (origin destination : UInt32) (date : Date) :
    Operation LinehaulCost
  | linehaulTotal (weight : Pounds) (origin destination : UInt32) (date : Date) : Operation Cents
  | storageCharge (cwt : Cwt) (days zip3 : UInt32) (date : Date) (stored : StorageEnd) :
    Operation Cents
  | resolveDiscount (origin destination : UInt32) (date : Date) : Operation RouteDiscount
  | estimatePpm (request : PpmEstimateRequest) : Operation PpmEstimate
  | estimateSit (origin destination : UInt32) (weight : Pounds) (date : Date) (days : UInt32) :
    Operation SitEstimate

namespace Tariff

/-- The answer of a tariff. -/
def perform (t : Tariff) {α : Type} : Operation α → Priced α
  | .zip3Row zip3 => t.zip3Row zip3
  | .serviceAreaFor zip3 date => t.serviceAreaFor zip3 date
  | .milesBetween origin destination => t.milesBetween origin destination
  | .milesBetweenCodes origin destination => t.milesBetweenCodes origin destination
  | .baseLinehaulCharge mileage cwt => t.baseLinehaulCharge mileage cwt
  | .shorthaulCharge mileage cwt => t.shorthaulCharge mileage cwt
  | .transportation mileage cwt => t.transportation mileage cwt
  | .linehaulFactor cwt zip3 date => t.linehaulFactor cwt zip3 date
  | .serviceCharge cwt zip3 date => t.serviceCharge cwt zip3 date
  | .linehaulCost weight origin destination date => t.linehaulCost weight origin destination date
  | .linehaulTotal weight origin destination date => t.linehaulTotal weight origin destination date
  | .storageCharge cwt days zip3 date stored => t.storageCharge cwt days zip3 date stored
  | .resolveDiscount origin destination date => t.resolveDiscount origin destination date
  | .estimatePpm request => t.estimatePpm request
  | .estimateSit origin destination weight date days =>
    t.estimateSit origin destination weight date days

/-- What the look-ups of a tariff are refused for has the property `E`. -/
structure Refusals (t : Tariff) (E : RatingError → Prop) : Prop where
  /-- A row that is not there. -/
  noRow : ∀ table key, E (.noRow table key)
  /-- A weight that is negative. -/
  invalidInput : ∀ field why, E (.invalidInput field why)
  /-- The look-up of the rates of a service area. -/
  serviceArea : ∀ zip3 date why, t.serviceAreaFor zip3 date = .error why → E why
  /-- The look-up of the discounts of a route. -/
  discount : ∀ origin destination date why,
    t.resolveDiscount origin destination date = .error why → E why

namespace Refusals

open Priced

variable {t : Tariff} {E : RatingError → Prop} (h : t.Refusals E)

include h

theorem require {α : Type} (table : TariffTable) (key : String) (o : Option α) :
    RefusesOnly E (liftM (Tariff.require table key o) : Priced α) := by
  refine .lift_refusal fun why hwhy => ?_
  cases o with
  | none =>
    cases hwhy
    exact h.noRow table key
  | some a => cases hwhy

theorem checkWeight (weight : Pounds) :
    RefusesOnly E (liftM (Tariff.checkWeight weight) : Priced Unit) := by
  refine .lift_refusal fun why hwhy => ?_
  unfold Tariff.checkWeight at hwhy
  split at hwhy
  · cases hwhy
    exact h.invalidInput _ _
  · cases hwhy

theorem serviceAreaFor (zip3 : UInt32) (date : Date) :
    RefusesOnly E (liftM (t.serviceAreaFor zip3 date) : Priced ServiceAreaRate) :=
  .lift_refusal fun why => h.serviceArea zip3 date why

theorem resolveDiscount (origin destination : UInt32) (date : Date) :
    RefusesOnly E (liftM (t.resolveDiscount origin destination date) : Priced RouteDiscount) :=
  .lift_refusal fun why => h.discount origin destination date why

/-! ### Charges -/

theorem baseLinehaulCharge (mileage : UInt32) (cwt : Cwt) :
    RefusesOnly E (t.baseLinehaulCharge mileage cwt) :=
  .bind (h.require _ _ _) fun _ => .lift_overflow _

theorem shorthaulCharge (mileage : UInt32) (cwt : Cwt) :
    RefusesOnly E (t.shorthaulCharge mileage cwt) :=
  .bind (.lift_overflow _) fun _ => .bind (h.require _ _ _) fun _ => .lift_overflow _

theorem transportation (mileage : UInt32) (cwt : Cwt) :
    RefusesOnly E (t.transportation mileage cwt) := by
  unfold Tariff.transportation
  cases Haul.ofMiles mileage with
  | longhaul => exact .bind (h.baseLinehaulCharge mileage cwt) fun _ => .pure _
  | shorthaul => exact .bind (h.shorthaulCharge mileage cwt) fun _ => .pure _

theorem linehaulFactor (cwt : Cwt) (zip3 : UInt32) (date : Date) :
    RefusesOnly E (t.linehaulFactor cwt zip3 date) :=
  .bind (h.serviceAreaFor zip3 date) fun _ => .lift_overflow _

theorem serviceCharge (cwt : Cwt) (zip3 : UInt32) (date : Date) :
    RefusesOnly E (t.serviceCharge cwt zip3 date) :=
  .bind (h.serviceAreaFor zip3 date) fun _ => .lift_overflow _

theorem linehaulCost (weight : Pounds) (origin destination : UInt32) (date : Date) :
    RefusesOnly E (t.linehaulCost weight origin destination date) := by
  refine .bind (h.checkWeight weight) fun _ => .bind (h.require _ _ _) fun mileage => ?_
  refine .bind (h.transportation mileage _) fun _ => ?_
  refine .bind (h.linehaulFactor _ _ _) fun _ => .bind (h.linehaulFactor _ _ _) fun _ => ?_
  exact .bind (.lift_overflow _) fun _ => .bind (.lift_overflow _) fun _ => .pure _

theorem storageCharge (cwt : Cwt) (days zip3 : UInt32) (date : Date) (stored : StorageEnd) :
    RefusesOnly E (t.storageCharge cwt days zip3 date stored) := by
  unfold Tariff.storageCharge
  by_cases hcwt : cwt.val < 0
  · rw [if_pos hcwt]
    intro why hwhy
    cases hwhy
    exact h.invalidInput _ _
  · rw [if_neg hcwt]
    by_cases hdays : days = 0
    · rw [if_pos hdays]
      exact .pure _
    · rw [if_neg hdays]
      exact .bind (h.serviceAreaFor zip3 date) fun _ => .lift_overflow _

/-! ### Estimates -/

theorem estimatePpm (request : PpmEstimateRequest) : RefusesOnly E (t.estimatePpm request) := by
  refine .bind (h.linehaulCost _ _ _ _) fun _ => ?_
  refine .bind (h.serviceCharge _ _ _) fun _ => .bind (h.serviceCharge _ _ _) fun _ => ?_
  refine .bind (h.storageCharge _ _ _ _ _) fun _ => .bind (h.resolveDiscount _ _ _) fun _ => ?_
  refine .bind (.lift_overflow _) fun _ => .bind (.lift_overflow _) fun _ => ?_
  refine .bind (.lift_overflow _) fun _ => .bind (.lift_overflow _) fun _ => ?_
  exact .bind (.lift_overflow _) fun _ => .bind (.lift_overflow _) fun _ => .pure _

theorem estimateSit (origin destination : UInt32) (weight : Pounds) (date : Date) (days : UInt32) :
    RefusesOnly E (t.estimateSit origin destination weight date days) := by
  refine .bind (h.checkWeight weight) fun _ => .bind (h.resolveDiscount _ _ _) fun _ => ?_
  exact .bind (h.storageCharge _ _ _ _ _) fun _ => .bind (.lift_overflow _) fun _ => .pure _

end Refusals

/-- Whatever is asked of a tariff, it refuses only what its look-ups refuse. -/
theorem refusesOnly_perform {t : Tariff} {E : RatingError → Prop} (h : t.Refusals E) {α : Type}
    (op : Operation α) : Priced.RefusesOnly E (t.perform op) := by
  cases op with
  | zip3Row zip3 => exact h.require _ _ _
  | serviceAreaFor zip3 date => exact h.serviceAreaFor zip3 date
  | milesBetween origin destination => exact h.require _ _ _
  | milesBetweenCodes origin destination => exact h.require _ _ _
  | baseLinehaulCharge mileage cwt => exact h.baseLinehaulCharge mileage cwt
  | shorthaulCharge mileage cwt => exact h.shorthaulCharge mileage cwt
  | transportation mileage cwt => exact h.transportation mileage cwt
  | linehaulFactor cwt zip3 date => exact h.linehaulFactor cwt zip3 date
  | serviceCharge cwt zip3 date => exact h.serviceCharge cwt zip3 date
  | linehaulCost weight origin destination date =>
    exact h.linehaulCost weight origin destination date
  | linehaulTotal weight origin destination date =>
    exact .map _ (h.linehaulCost weight origin destination date)
  | storageCharge cwt days zip3 date stored => exact h.storageCharge cwt days zip3 date stored
  | resolveDiscount origin destination date => exact h.resolveDiscount origin destination date
  | estimatePpm request => exact h.estimatePpm request
  | estimateSit origin destination weight date days =>
    exact h.estimateSit origin destination weight date days

end Tariff

end MoveRating
