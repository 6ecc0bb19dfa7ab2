import MoveRating.Proofs.Operation

/-!
# Two tariffs asked the same

What two tariffs answer to a question, told by what they answer to the look-ups behind it.

* A `Comparison` is a relation between outcomes that any outcome has to itself and that sequences of
  steps keep. `Comparison.equal` is equality, and `Comparison.unlessAmbiguous` says that an answer
  stays unless there is doubt about a rate.
* Each charge and each estimate compares if its look-ups do, at the places and dates in question
  alone: `Comparison.rel_linehaulCost`, `Comparison.rel_estimatePpm`, `Comparison.rel_estimateSit`.
* `Comparison.rel_perform`: if all look-ups of two tariffs compare, so does every operation.
-/

namespace MoveRating

/-- A relation between the outcomes of two computations that sequences of steps keep. -/
structure Comparison where
  /-- The outcomes compare. -/
  rel : {α : Type} → Priced α → Priced α → Prop
  /-- A step that is the same in both. -/
  refl : ∀ {α : Type} (x : Priced α), rel x x
  /-- A step and what follows its answer. -/
  bind : ∀ {α β : Type} {x y : Priced α} {f g : α → Priced β}, rel x y →
    (∀ a, x = .ok a → rel (f a) (g a)) → rel (x >>= f) (y >>= g)

namespace Comparison

/-- Both outcomes are the same. -/
def equal : Comparison where
  rel x y := x = y
  refl _ := rfl
  bind := by
    intro α β x y f g hxy hfg
    subst hxy
    cases x with
    | error e => rfl
    | ok a => exact hfg a rfl

end Comparison

/-- The computation is refused since several rows apply. -/
def Priced.Ambiguous {α : Type} (x : Priced α) : Prop :=
  ∃ table key date, x = .error (.refused (.ambiguousRate table key date))

namespace Comparison

/-- An answer of the first computation is that of the second, unless the second is in doubt. -/
def unlessAmbiguous : Comparison where
  rel x y := ∀ a, x = .ok a → y = .ok a ∨ y.Ambiguous
  refl x a ha := .inl ha
  bind := by
    intro α β x y f g hxy hfg b hb
    obtain ⟨a, ha, hfa⟩ := bind_eq_ok_iff.1 hb
    rcases hxy a ha with hy | ⟨table, key, date, hy⟩
    · rw [hy]
      exact hfg a ha b hfa
    · -- the doubt about the first step ends the second computation
      rw [hy]
      exact .inr ⟨table, key, date, rfl⟩

variable (c : Comparison) {t t' : Tariff}

theorem rel_map {α β : Type} {x y : Priced α} (f : α → β) (h : c.rel x y) :
    c.rel (f <$> x) (f <$> y) := by
  rw [map_eq_pure_bind, map_eq_pure_bind]
  exact c.bind h fun a _ => c.refl _

/-! ### Charges -/

section

variable {cwt : Cwt} {zip3 : UInt32} {date : Date}
  (hzip3 : c.rel (liftM (t.serviceAreaFor zip3 date) : Priced ServiceAreaRate)
    (liftM (t'.serviceAreaFor zip3 date)))

include hzip3

theorem rel_linehaulFactor :
    c.rel (t.linehaulFactor cwt zip3 date) (t'.linehaulFactor cwt zip3 date) :=
  c.bind hzip3 fun _ _ => c.refl _

theorem rel_serviceCharge :
    c.rel (t.serviceCharge cwt zip3 date) (t'.serviceCharge cwt zip3 date) :=
  c.bind hzip3 fun _ _ => c.refl _

theorem rel_storageCharge (days : UInt32) (stored : StorageEnd) :
    c.rel (t.storageCharge cwt days zip3 date stored)
      (t'.storageCharge cwt days zip3 date stored) := by
  unfold Tariff.storageCharge
  by_cases hcwt : cwt.val < 0
  · simp only [if_pos hcwt]
    exact c.refl _
  · simp only [if_neg hcwt]
    by_cases hdays : days = 0
    · simp only [if_pos hdays]
      exact c.refl _
    · simp only [if_neg hdays]
      exact c.bind hzip3 fun _ _ => c.refl _

end

/-- Only the table that the mileage selects counts. -/
theorem rel_transportation {mileage : UInt32} {cwt : Cwt}
    (hlong : Haul.ofMiles mileage = .longhaul →
      c.rel (t.baseLinehaulCharge mileage cwt) (t'.baseLinehaulCharge mileage cwt))
    (hshort : Haul.ofMiles mileage = .shorthaul →
      c.rel (t.shorthaulCharge mileage cwt) (t'.shorthaulCharge mileage cwt)) :
    c.rel (t.transportation mileage cwt) (t'.transportation mileage cwt) := by
  unfold Tariff.transportation
  cases hhaul : Haul.ofMiles mileage with
  | longhaul => exact c.bind (hlong hhaul) fun _ _ => c.refl _
  | shorthaul => exact c.bind (hshort hhaul) fun _ _ => c.refl _

/-! ### Estimates -/

section

variable {origin destination : UInt32} {date : Date}
  (horigin : c.rel (liftM (t.serviceAreaFor origin date) : Priced ServiceAreaRate)
    (liftM (t'.serviceAreaFor origin date)))
  (hdestination : c.rel (liftM (t.serviceAreaFor destination date) : Priced ServiceAreaRate)
    (liftM (t'.serviceAreaFor destination date)))

include horigin hdestination

theorem rel_linehaulCost {weight : Pounds}
    (hmiles : c.rel (liftM (t.milesBetween origin destination) : Priced UInt32)
      (liftM (t'.milesBetween origin destination)))
    (htransportation : ∀ miles, t.milesBetween origin destination = .ok miles →
      c.rel (t.transportation miles weight.toCwt) (t'.transportation miles weight.toCwt)) :
    c.rel (t.linehaulCost weight origin destination date)
      (t'.linehaulCost weight origin destination date) := by
  unfold Tariff.linehaulCost
  refine c.bind (c.refl _) fun _ _ => c.bind hmiles fun miles hm => ?_
  rw [lift_refusal, mapError_eq_ok_iff] at hm
  refine c.bind (htransportation miles hm) fun _ _ => ?_
  refine c.bind (c.rel_linehaulFactor horigin) fun _ _ => ?_
  exact c.bind (c.rel_linehaulFactor hdestination) fun _ _ => c.refl _

end

theorem rel_estimatePpm {q : PpmEstimateRequest}
    (hlinehaul : c.rel
      (t.linehaulCost q.weight (zip3Of q.originZip) (zip3Of q.destinationZip) q.plannedMoveDate)
      (t'.linehaulCost q.weight (zip3Of q.originZip) (zip3Of q.destinationZip) q.plannedMoveDate))
    (horigin : c.rel
      (liftM (t.serviceAreaFor (zip3Of q.originZip) q.plannedMoveDate) : Priced ServiceAreaRate)
      (liftM (t'.serviceAreaFor (zip3Of q.originZip) q.plannedMoveDate)))
    (hdestination : c.rel
      (liftM (t.serviceAreaFor (zip3Of q.destinationZip) q.plannedMoveDate) :
        Priced ServiceAreaRate)
      (liftM (t'.serviceAreaFor (zip3Of q.destinationZip) q.plannedMoveDate)))
    (hdiscount : c.rel
      (liftM (t.resolveDiscount q.originZip q.destinationZip q.plannedMoveDate) :
        Priced RouteDiscount)
      (liftM (t'.resolveDiscount q.originZip q.destinationZip q.plannedMoveDate))) :
    c.rel (t.estimatePpm q) (t'.estimatePpm q) := by
  unfold Tariff.estimatePpm
  refine c.bind hlinehaul fun _ _ => c.bind (c.rel_serviceCharge horigin) fun _ _ => ?_
  refine c.bind (c.rel_serviceCharge hdestination) fun _ _ => ?_
  refine c.bind (c.rel_storageCharge hdestination _ _) fun _ _ => ?_
  exact c.bind hdiscount fun _ _ => c.refl _

theorem rel_estimateSit {origin destination : UInt32} {weight : Pounds} {date : Date}
    {days : UInt32}
    (hdestination : c.rel
      (liftM (t.serviceAreaFor (zip3Of destination) date) : Priced ServiceAreaRate)
      (liftM (t'.serviceAreaFor (zip3Of destination) date)))
    (hdiscount : c.rel (liftM (t.resolveDiscount origin destination date) : Priced RouteDiscount)
      (liftM (t'.resolveDiscount origin destination date))) :
    c.rel (t.estimateSit origin destination weight date days)
      (t'.estimateSit origin destination weight date days) := by
  unfold Tariff.estimateSit
  refine c.bind (c.refl _) fun _ _ => c.bind hdiscount fun _ _ => ?_
  exact c.bind (c.rel_storageCharge hdestination _ _) fun _ _ => c.refl _

/-! ### All operations -/

/-- The look-ups of two tariffs compare. -/
structure Lookups (t t' : Tariff) : Prop where
  zip3Row : ∀ zip3, c.rel (liftM (t.zip3Row zip3) : Priced Zip3) (liftM (t'.zip3Row zip3))
  milesBetween : ∀ origin destination, c.rel
    (liftM (t.milesBetween origin destination) : Priced UInt32)
    (liftM (t'.milesBetween origin destination))
  serviceAreaFor : ∀ zip3 date, c.rel
    (liftM (t.serviceAreaFor zip3 date) : Priced ServiceAreaRate)
    (liftM (t'.serviceAreaFor zip3 date))
  baseLinehaulCharge : ∀ mileage cwt,
    c.rel (t.baseLinehaulCharge mileage cwt) (t'.baseLinehaulCharge mileage cwt)
  shorthaulCharge : ∀ mileage cwt,
    c.rel (t.shorthaulCharge mileage cwt) (t'.shorthaulCharge mileage cwt)
  resolveDiscount : ∀ origin destination date, c.rel
    (liftM (t.resolveDiscount origin destination date) : Priced RouteDiscount)
    (liftM (t'.resolveDiscount origin destination date))

variable {c}

theorem Lookups.linehaulCost (h : c.Lookups t t') (weight : Pounds) (origin destination : UInt32)
    (date : Date) :
    c.rel (t.linehaulCost weight origin destination date)
      (t'.linehaulCost weight origin destination date) :=
  c.rel_linehaulCost (h.serviceAreaFor origin date) (h.serviceAreaFor destination date)
    (h.milesBetween origin destination) fun miles _ =>
      c.rel_transportation (fun _ => h.baseLinehaulCharge miles _)
        fun _ => h.shorthaulCharge miles _

/-- Where the look-ups of two tariffs compare, all that they are asked does. -/
theorem rel_perform (h : c.Lookups t t') {α : Type} (op : Operation α) :
    c.rel (t.perform op) (t'.perform op) := by
  cases op with
  | zip3Row zip3 => exact h.zip3Row zip3
  | serviceAreaFor zip3 date => exact h.serviceAreaFor zip3 date
  | milesBetween origin destination => exact h.milesBetween origin destination
  | milesBetweenCodes origin destination =>
    exact h.milesBetween (zip3Of origin) (zip3Of destination)
  | baseLinehaulCharge mileage cwt => exact h.baseLinehaulCharge mileage cwt
  | shorthaulCharge mileage cwt => exact h.shorthaulCharge mileage cwt
  | transportation mileage cwt =>
    exact c.rel_transportation (fun _ => h.baseLinehaulCharge mileage cwt)
      fun _ => h.shorthaulCharge mileage cwt
  | linehaulFactor cwt zip3 date => exact c.rel_linehaulFactor (h.serviceAreaFor zip3 date)
  | serviceCharge cwt zip3 date => exact c.rel_serviceCharge (h.serviceAreaFor zip3 date)
  | linehaulCost weight origin destination date =>
    exact h.linehaulCost weight origin destination date
  | linehaulTotal weight origin destination date =>
    exact c.rel_map _ (h.linehaulCost weight origin destination date)
  | storageCharge cwt days zip3 date stored =>
    exact c.rel_storageCharge (h.serviceAreaFor zip3 date) days stored
  | resolveDiscount origin destination date => exact h.resolveDiscount origin destination date
  | estimatePpm q =>
    exact c.rel_estimatePpm (h.linehaulCost _ _ _ _) (h.serviceAreaFor _ _) (h.serviceAreaFor _ _)
      (h.resolveDiscount _ _ _)
  | estimateSit origin destination weight date days =>
    exact c.rel_estimateSit (h.serviceAreaFor _ _) (h.resolveDiscount _ _ _)

end Comparison

end MoveRating
