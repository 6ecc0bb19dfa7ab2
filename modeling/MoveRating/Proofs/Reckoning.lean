import MoveRating.Proofs.Amount
import MoveRating.Proofs.Outcome

/-!
# Reckonings

A `Reckoning` is a calculation in exact integers. It keeps a list of all figures that it comes by,
so that one can tell what becomes of the same calculation in words (`Reckoning.outcome`): the first
figure that does not fit a word stops it.

* `InWords v x y` says that the computation `x` is the reckoning `y` in words, where `v` takes an
  answer of `x` to the integers that it denotes. `InWords.bind` is the rule for sequences, and
  `inWords_perCwt`, `inWords_add` and `inWords_addAll` are those for amounts.
* `InWords.overflows_iff` tells when `x` overflows, `InWords.map_eq` what its answer is if it does
  not, and `InWords.exists_ok_iff` when there is an answer.
* `Reckoning.Keeps F P y` says that all figures of `y` have the property `F` and its result has the
  property `P`, and `Reckoning.Keeps.bind` is the rule for sequences.
-/

namespace MoveRating

variable {α β γ δ : Type}

/-- A calculation in exact integers. -/
structure Reckoning (α : Type) where
  /-- The figures in order, each with the overflow if it does not fit a word. -/
  figures : List (Overflow × Int)
  /-- The result, or the refusal that comes after the figures. -/
  result : Except RatingError α

namespace Reckoning

/-- A result without figures. -/
def done (a : α) : Reckoning α := ⟨[], .ok a⟩

/-- One reckoning after another, unless the first is refused. -/
def andThen (y : Reckoning α) (g : α → Reckoning β) : Reckoning β :=
  match y.result with
  | .ok a => ⟨y.figures ++ (g a).figures, (g a).result⟩
  | .error why => ⟨y.figures, .error why⟩

instance : Monad Reckoning where
  pure := done
  bind := andThen

/-- A single figure. -/
def figure (cause : Overflow) (n : Int) : Reckoning Int := ⟨[(cause, n)], .ok n⟩

/-- A look-up. -/
def lookup (r : Except RatingError α) : Reckoning α := ⟨[], r⟩

/-- A running total: `start` and then each amount in turn. -/
def total (start : Int) (amounts : List Int) : Reckoning Int :=
  amounts.foldlM (fun a b => figure .sum (a + b)) start

/-- All figures fit words. -/
def AllFit (y : Reckoning α) : Prop := ∀ f ∈ y.figures, Fits f.2

/-- The outcome of a reckoning in words. -/
def outcome (y : Reckoning α) : Priced α :=
  match y.figures.find? fun f => !decide (Fits f.2) with
  | some f => .error (.overflow f.1)
  | none => y.result.mapError .refused

/-! ### Sequences -/

theorem bind_of_ok {y : Reckoning α} {a : α} (h : y.result = .ok a) (g : α → Reckoning β) :
    (y >>= g) = ⟨y.figures ++ (g a).figures, (g a).result⟩ := by
  change y.andThen g = _
  unfold andThen
  rw [h]

theorem bind_of_error {y : Reckoning α} {why : RatingError} (h : y.result = .error why)
    (g : α → Reckoning β) : (y >>= g) = ⟨y.figures, .error why⟩ := by
  change y.andThen g = _
  unfold andThen
  rw [h]

theorem mem_figures_bind {y : Reckoning α} {g : α → Reckoning β} {f : Overflow × Int} :
    f ∈ (y >>= g).figures ↔
      f ∈ y.figures ∨ ∃ a, y.result = .ok a ∧ f ∈ (g a).figures := by
  cases h : y.result with
  | ok a => simp [bind_of_ok h]
  | error why => simp [bind_of_error h]

/-- The result of a sequence does not hang on the figures. -/
@[simp] theorem result_bind (y : Reckoning α) (g : α → Reckoning β) :
    (y >>= g).result = y.result >>= fun a => (g a).result := by
  cases h : y.result with
  | ok a => rw [bind_of_ok h]; rfl
  | error why => rw [bind_of_error h]; rfl

@[simp] theorem result_pure (a : α) : (pure a : Reckoning α).result = .ok a := rfl

@[simp] theorem result_figure (cause : Overflow) (n : Int) : (figure cause n).result = .ok n := rfl

@[simp] theorem result_lookup (r : Except RatingError α) : (lookup r).result = r := rfl

theorem result_total (start : Int) (amounts : List Int) :
    (total start amounts).result = .ok (amounts.foldl (· + ·) start) := by
  induction amounts generalizing start with
  | nil => rfl
  | cons b amounts ih =>
    change (figure .sum (start + b) >>= fun a => total a amounts).result = _
    rw [result_bind]
    exact ih (start + b)

@[simp] theorem allFit_pure (a : α) : (pure a : Reckoning α).AllFit := nofun

@[simp] theorem allFit_figure {cause : Overflow} {n : Int} :
    (figure cause n).AllFit ↔ Fits n := by
  simp [AllFit, figure]

theorem allFit_bind {y : Reckoning α} {g : α → Reckoning β} :
    (y >>= g).AllFit ↔ y.AllFit ∧ ∀ a, y.result = .ok a → (g a).AllFit := by
  simp only [AllFit, mem_figures_bind]
  constructor
  · intro h
    exact ⟨fun f hf => h f (.inl hf), fun a ha f hf => h f (.inr ⟨a, ha, hf⟩)⟩
  · rintro ⟨h, h'⟩ f (hf | ⟨a, ha, hf⟩)
    · exact h f hf
    · exact h' a ha f hf

theorem outcome_of_allFit {y : Reckoning α} (h : y.AllFit) :
    y.outcome = y.result.mapError .refused := by
  have hnone : y.figures.find? (fun f => !decide (Fits f.2)) = none := by
    refine List.find?_eq_none.2 fun f hf => ?_
    simp [h f hf]
  unfold outcome
  rw [hnone]

/-- In words, a reckoning overflows just if it comes by a figure that does not fit. -/
theorem outcome_overflows_iff {y : Reckoning α} :
    y.outcome.Overflows ↔ ∃ f ∈ y.figures, ¬Fits f.2 := by
  constructor
  · rintro ⟨what, h⟩
    unfold outcome at h
    split at h
    · next f hf =>
      refine ⟨f, List.mem_of_find?_eq_some hf, ?_⟩
      simpa using List.find?_some hf
    · obtain ⟨why, -, h⟩ := mapError_eq_error_iff.1 h
      cases h
  · rintro ⟨f, hf, hfit⟩
    -- the first such figure is what stops it
    cases hfind : y.figures.find? fun f => !decide (Fits f.2) with
    | none => exact absurd (List.find?_eq_none.1 hfind f hf) (by simp [hfit])
    | some f' =>
      refine ⟨f'.1, ?_⟩
      unfold outcome
      rw [hfind]

theorem allFit_of_not_overflows {y : Reckoning α} (h : ¬y.outcome.Overflows) : y.AllFit :=
  fun f hf => Decidable.byContradiction fun hfit => h (outcome_overflows_iff.2 ⟨f, hf, hfit⟩)

/-- An outcome other than an overflow is that of a reckoning of which all figures fit. -/
theorem outcome_eq_iff {y : Reckoning α} {x : Priced α} (hx : ¬x.Overflows) :
    y.outcome = x ↔ y.AllFit ∧ y.result.mapError .refused = x := by
  constructor
  · rintro rfl
    have hfit := allFit_of_not_overflows hx
    exact ⟨hfit, (outcome_of_allFit hfit).symm⟩
  · rintro ⟨hfit, rfl⟩
    exact outcome_of_allFit hfit

theorem outcome_eq_ok_iff {y : Reckoning α} {a : α} :
    y.outcome = .ok a ↔ y.AllFit ∧ y.result = .ok a := by
  rw [outcome_eq_iff (Priced.not_overflows_ok a), mapError_eq_ok_iff]

theorem outcome_eq_refused_iff {y : Reckoning α} {why : RatingError} :
    y.outcome = .error (.refused why) ↔ y.AllFit ∧ y.result = .error why := by
  rw [outcome_eq_iff (Priced.not_overflows_refused why), mapError_eq_error_iff]
  simp

/-- The outcome of a sequence is the sequence of the outcomes. -/
theorem outcome_bind (y : Reckoning α) (g : α → Reckoning β) :
    (y >>= g).outcome = y.outcome >>= fun a => (g a).outcome := by
  cases h : y.result with
  | ok a =>
    rw [bind_of_ok h]
    unfold outcome
    rw [List.find?_append, h]
    cases y.figures.find? fun f => !decide (Fits f.2) <;> rfl
  | error why =>
    rw [bind_of_error h]
    unfold outcome
    rw [h]
    cases y.figures.find? fun f => !decide (Fits f.2) <;> rfl

end Reckoning

open Reckoning

/-! ### Computations in words -/

/-- The computation is the reckoning in words. -/
def InWords (v : α → β) (x : Priced α) (y : Reckoning β) : Prop := v <$> x = y.outcome

namespace InWords

variable {v : α → β} {x : Priced α} {y : Reckoning β}

theorem overflows_iff (h : InWords v x y) : x.Overflows ↔ ∃ f ∈ y.figures, ¬Fits f.2 := by
  rw [← outcome_overflows_iff, ← h]
  unfold Priced.Overflows
  simp

theorem not_overflows_iff (h : InWords v x y) : ¬x.Overflows ↔ y.AllFit := by
  rw [h.overflows_iff]
  unfold AllFit
  simp

/-- Without an overflow, the answer denotes the result of the reckoning. -/
theorem map_eq (h : InWords v x y) (hx : ¬x.Overflows) : v <$> x = y.result.mapError .refused := by
  rw [← outcome_of_allFit (h.not_overflows_iff.1 hx)]
  exact h

/-- There is an answer if all figures fit and the reckoning has a result. The answer denotes it. -/
theorem exists_ok_iff (h : InWords v x y) {b : β} :
    (∃ a, x = .ok a ∧ v a = b) ↔ y.AllFit ∧ y.result = .ok b := by
  rw [← map_eq_ok_iff, h, outcome_eq_ok_iff]

theorem eq_ok_iff (h : InWords v x y) (hv : Function.Injective v) {a : α} :
    x = .ok a ↔ y.AllFit ∧ y.result = .ok (v a) := by
  rw [← h.exists_ok_iff]
  constructor
  · intro ha
    exact ⟨a, ha, rfl⟩
  · rintro ⟨b, hb, hba⟩
    rw [hb, hv hba]

theorem refused_iff (h : InWords v x y) {why : RatingError} :
    x = .error (.refused why) ↔ y.AllFit ∧ y.result = .error why := by
  rw [← outcome_eq_refused_iff, ← h, map_eq_error_iff]

theorem bind {w : γ → δ} {f : α → Priced γ} {g : β → Reckoning δ} (h : InWords v x y)
    (hf : ∀ a, x = .ok a → InWords w (f a) (g (v a))) : InWords w (x >>= f) (y >>= g) := by
  unfold InWords at h ⊢
  rw [outcome_bind, ← h]
  cases x with
  | error why => rfl
  | ok a => exact hf a rfl

theorem pure {a : α} {b : β} (h : v a = b) :
    InWords v (Pure.pure a : Priced α) (Pure.pure b : Reckoning β) := by
  subst h
  rfl

/-- A first figure that fits changes nothing but what comes after it. -/
theorem of_figure {cause : Overflow} {n : Int} {g : Int → Reckoning β} (hn : Fits n)
    (h : InWords v x (figure cause n >>= g)) : InWords v x (g n) := by
  have hfigure : (figure cause n).outcome = .ok n :=
    outcome_eq_ok_iff.2 ⟨allFit_figure.2 hn, rfl⟩
  unfold InWords at h ⊢
  rw [h, outcome_bind, hfigure]
  rfl

/-- An answer may be packed with others in words alone. -/
theorem bind_pure {w : γ → β} {f : α → γ} (h : InWords v x y) (hf : ∀ a, w (f a) = v a) :
    InWords w (x >>= fun a => Pure.pure (f a)) y := by
  unfold InWords at h ⊢
  rw [← h]
  cases x with
  | error why => rfl
  | ok a => exact congrArg Except.ok (hf a)

/-- A step without figures may be left out of the reckoning. -/
theorem bind_value {w : α → δ} {f : γ → Priced α} {u : γ → β} {x : Priced γ} {b : β}
    {z : Reckoning δ} (hx : ∃ c, x = .ok c ∧ u c = b)
    (hf : ∀ c, u c = b → InWords w (f c) z) : InWords w (x >>= f) z := by
  obtain ⟨c, rfl, hc⟩ := hx
  exact hf c hc

end InWords

theorem inWords_lookup (r : Except RatingError α) :
    InWords id (liftM r : Priced α) (lookup r) := by
  cases r <;> rfl

theorem inWords_checked (cause : Overflow) (n : Int) :
    InWords Int64.toInt (liftM (checked cause n) : Priced Int64) (figure cause n) := by
  have h := toInt_checked cause n
  unfold InWords outcome figure
  by_cases hn : Fits n
  · rw [if_pos hn] at h
    obtain ⟨w, hw, hwn⟩ := map_eq_ok_iff.1 h
    simp [hn, hw, hwn, lift_overflow]
  · rw [if_neg hn, map_eq_error_iff] at h
    simp [hn, h, lift_overflow]

theorem inWords_cents {x : Except Overflow Int64} {y : Reckoning Int}
    (h : InWords Int64.toInt (liftM x : Priced Int64) y) :
    InWords Cents.toInt (liftM (Cents.mk <$> x) : Priced Cents) y := by
  unfold InWords at h ⊢
  rw [← h]
  cases x <;> rfl

/-- Where only one figure is left, any amount of that many cents fits. -/
theorem inWords_figure_eq_ok_iff {x : Priced Cents} {cause : Overflow} {n : Int} {amount : Cents}
    (h : InWords Cents.toInt x (figure cause n)) : x = .ok amount ↔ amount.toInt = n := by
  rw [h.eq_ok_iff fun _ _ => Cents.toInt_inj.1, allFit_figure, result_figure, Except.ok.injEq]
  constructor
  · rintro ⟨-, rfl⟩
    rfl
  · rintro rfl
    exact ⟨amount.fits_toInt, rfl⟩

theorem inWords_times (rate : Cents) (units : Int64) :
    InWords Cents.toInt (liftM (rate.times units) : Priced Cents)
      (figure .product (rate.toInt * units.toInt)) :=
  inWords_cents (inWords_checked .product _)

theorem inWords_perCwt (rate : Cents) (weight : Cwt) :
    InWords Cents.toInt (liftM (rate.perCwt weight) : Priced Cents)
      (figure .product (rate.toInt * weight.toInt)) := inWords_times rate weight.val

theorem inWords_add (a b : Cents) :
    InWords Cents.toInt (liftM (a.add b) : Priced Cents) (figure .sum (a.toInt + b.toInt)) :=
  inWords_cents (inWords_checked .sum _)

theorem lift_bind (x : Except Overflow α) (f : α → Except Overflow β) :
    (liftM (x >>= f) : Priced β) = liftM x >>= fun a => liftM (f a) := by
  cases x <;> rfl

/-- The rule for sequences of sums and products. -/
theorem InWords.lift_bind {x : Except Overflow α} {f : α → Except Overflow γ} {v : α → β}
    {w : γ → δ} {y : Reckoning β} {g : β → Reckoning δ} (h : InWords v (liftM x : Priced α) y)
    (hf : ∀ a, InWords w (liftM (f a) : Priced γ) (g (v a))) :
    InWords w (liftM (x >>= f) : Priced γ) (y >>= g) := by
  rw [MoveRating.lift_bind]
  exact h.bind fun a _ => hf a

theorem inWords_addAll (start : Cents) (amounts : List Cents) :
    InWords Cents.toInt (liftM (start.addAll amounts) : Priced Cents)
      (total start.toInt (amounts.map Cents.toInt)) := by
  induction amounts generalizing start with
  | nil => exact InWords.pure rfl
  | cons b amounts ih =>
    -- both sides begin with the first sum
    change InWords Cents.toInt (liftM (start.add b >>= fun a => a.addAll amounts) : Priced Cents)
      (figure .sum (start.toInt + b.toInt) >>= fun a => total a (amounts.map Cents.toInt))
    exact (inWords_add start b).lift_bind ih

/-! ### What figures have in common -/

/-- All figures have the property `F`, and the result has the property `P`. -/
def Reckoning.Keeps (F : Int → Prop) (P : α → Prop) (y : Reckoning α) : Prop :=
  (∀ f ∈ y.figures, F f.2) ∧ ∀ a, y.result = .ok a → P a

namespace Reckoning.Keeps

variable {F : Int → Prop} {P : α → Prop} {Q : β → Prop}

theorem bind {y : Reckoning α} {g : α → Reckoning β} (hy : Keeps F P y)
    (hg : ∀ a, P a → Keeps F Q (g a)) : Keeps F Q (y >>= g) := by
  cases h : y.result with
  | ok a =>
    have ha := hg a (hy.2 a h)
    rw [bind_of_ok h]
    refine ⟨fun f hf => ?_, ha.2⟩
    rcases List.mem_append.1 hf with hf | hf
    · exact hy.1 f hf
    · exact ha.1 f hf
  | error why =>
    rw [bind_of_error h]
    exact ⟨hy.1, nofun⟩

theorem pure {a : α} (h : P a) : Keeps F P (Pure.pure a : Reckoning α) := by
  refine ⟨nofun, fun b hb => ?_⟩
  cases hb
  exact h

theorem figure {cause : Overflow} {n : Int} {P : Int → Prop} (hF : F n) (hP : P n) :
    Keeps F P (figure cause n) := by
  refine ⟨fun f hf => ?_, fun b hb => ?_⟩
  · obtain rfl := List.mem_singleton.1 hf
    exact hF
  · cases hb
    exact hP

theorem lookup {r : Except RatingError α} (h : ∀ a, r = .ok a → P a) : Keeps F P (lookup r) :=
  ⟨nofun, h⟩

end Reckoning.Keeps

end MoveRating
