import MoveRating.RatingError

/-!
# Outcomes of computations

A computation ends with an answer, with a refusal or with an overflow. The lemmas of this file take
such computations apart:

* a sequence has an answer if all its steps have (`bind_eq_ok_iff`), and otherwise ends as its first
  step without one (`bind_eq_error_iff`);
* `Priced.Overflows` are the computations that an overflow stops;
* `Priced.RefusesOnly E` are those whose refusal, if there is one, has the property `E`. A sequence
  of such computations is one again (`Priced.RefusesOnly.bind`).
-/

namespace MoveRating

variable {ε ε' α β : Type}

/-! ### Sequences -/

theorem bind_eq_ok_iff {x : Except ε α} {f : α → Except ε β} {b : β} :
    (x >>= f) = .ok b ↔ ∃ a, x = .ok a ∧ f a = .ok b := by
  cases x with
  | error e => simp [Bind.bind, Except.bind]
  | ok a => simp [Bind.bind, Except.bind]

theorem bind_eq_error_iff {x : Except ε α} {f : α → Except ε β} {e : ε} :
    (x >>= f) = .error e ↔ x = .error e ∨ ∃ a, x = .ok a ∧ f a = .error e := by
  cases x with
  | error e' => simp [Bind.bind, Except.bind]
  | ok a => simp [Bind.bind, Except.bind]

@[simp] theorem pure_eq_ok_iff {a b : α} : (pure a : Except ε α) = .ok b ↔ a = b := by
  simp [pure, Except.pure]

@[simp] theorem pure_ne_error {a : α} {e : ε} : (pure a : Except ε α) ≠ .error e := nofun

@[simp] theorem mapError_ok {f : ε → ε'} {a : α} : (Except.ok a).mapError f = .ok a := rfl

@[simp] theorem mapError_error {f : ε → ε'} {e : ε} :
    (Except.error e : Except ε α).mapError f = .error (f e) := rfl

@[simp] theorem mapError_eq_ok_iff {f : ε → ε'} {x : Except ε α} {a : α} :
    x.mapError f = .ok a ↔ x = .ok a := by
  cases x with
  | error e => simp
  | ok b => simp

@[simp] theorem mapError_eq_error_iff {f : ε → ε'} {x : Except ε α} {e : ε'} :
    x.mapError f = .error e ↔ ∃ e₀, x = .error e₀ ∧ f e₀ = e := by
  cases x with
  | error e₀ => simp
  | ok b => simp

@[simp] theorem map_eq_ok_iff {f : α → β} {x : Except ε α} {b : β} :
    f <$> x = .ok b ↔ ∃ a, x = .ok a ∧ f a = b := by
  cases x <;> simp [Functor.map, Except.map]

@[simp] theorem map_eq_error_iff {f : α → β} {x : Except ε α} {e : ε} :
    f <$> x = .error e ↔ x = .error e := by
  cases x <;> simp [Functor.map, Except.map]

theorem isOk_eq_true_iff {x : Except ε α} : x.isOk = true ↔ ∃ a, x = .ok a := by
  cases x <;> simp [Except.isOk, Except.toBool]

theorem isOk_eq_false_iff {x : Except ε α} : x.isOk = false ↔ ∃ e, x = .error e := by
  cases x <;> simp [Except.isOk, Except.toBool]

/-! ### Parts of priced computations -/

/-- Checked arithmetic within a priced computation. -/
theorem lift_overflow (x : Except Overflow α) :
    (liftM x : Priced α) = x.mapError Fault.overflow := rfl

/-- A look-up within a priced computation. -/
theorem lift_refusal (x : Except RatingError α) :
    (liftM x : Priced α) = x.mapError Fault.refused := rfl

/-- The computation is stopped by an overflow. -/
def Priced.Overflows (x : Priced α) : Prop := ∃ what, x = .error (.overflow what)

/-- The computation is not refused, unless for a reason with the property. -/
def Priced.RefusesOnly (E : RatingError → Prop) (x : Priced α) : Prop :=
  ∀ why, x = .error (.refused why) → E why

namespace Priced

@[simp] theorem not_overflows_ok (a : α) : ¬Overflows (.ok a) := nofun

@[simp] theorem not_overflows_refused (why : RatingError) :
    ¬Overflows (.error (.refused why) : Priced α) := nofun

/-- A computation that no overflow stops gives an answer or is refused. -/
theorem not_overflows_iff {x : Priced α} :
    ¬x.Overflows ↔ (∃ a, x = .ok a) ∨ ∃ why, x = .error (.refused why) := by
  rcases x with (why | what) | a
  · simp [Overflows]
  · simp [Overflows]
  · simp [Overflows]

namespace RefusesOnly

variable {E : RatingError → Prop}

theorem bind {x : Priced α} {f : α → Priced β} (hx : RefusesOnly E x)
    (hf : ∀ a, RefusesOnly E (f a)) : RefusesOnly E (x >>= f) := by
  intro why h
  rcases bind_eq_error_iff.1 h with h | ⟨a, -, h⟩
  · exact hx why h
  · exact hf a why h

/-- What follows an answer may count on it. -/
theorem bind_of_ok {x : Priced α} {f : α → Priced β} (hx : RefusesOnly E x)
    (hf : ∀ a, x = .ok a → RefusesOnly E (f a)) : RefusesOnly E (x >>= f) := by
  intro why h
  rcases bind_eq_error_iff.1 h with h | ⟨a, ha, h⟩
  · exact hx why h
  · exact hf a ha why h

theorem mono {E' : RatingError → Prop} {x : Priced α} (hx : RefusesOnly E x)
    (hE : ∀ why, E why → E' why) : RefusesOnly E' x := fun why h => hE why (hx why h)

theorem pure (a : α) : RefusesOnly E (Pure.pure a : Priced α) := fun _ h => (pure_ne_error h).elim

theorem map {x : Priced α} (f : α → β) (hx : RefusesOnly E x) : RefusesOnly E (f <$> x) :=
  fun why h => hx why (map_eq_error_iff.1 h)

/-- Arithmetic is never refused. -/
theorem lift_overflow (x : Except Overflow α) : RefusesOnly E (liftM x : Priced α) := by
  intro why h
  rw [MoveRating.lift_overflow, mapError_eq_error_iff] at h
  obtain ⟨what, -, h⟩ := h
  cases h

theorem lift_refusal {x : Except RatingError α} (hx : ∀ why, x = .error why → E why) :
    RefusesOnly E (liftM x : Priced α) := by
  intro why h
  rw [MoveRating.lift_refusal, mapError_eq_error_iff] at h
  obtain ⟨why', hwhy, h⟩ := h
  cases h
  exact hx why hwhy

end RefusesOnly

end Priced

end MoveRating
