import Mathlib.Algebra.BigOperators.Group.List.Basic
import Mathlib.Algebra.Ring.Int.Defs
import MoveRating.Proofs.Amount
import MoveRating.Proofs.Outcome

/-!
# Totals on the way

A sum of amounts is added up from the left, and each total on the way has to fit a word. So it hangs
on the totals of all first parts of the list, and for amounts of both signs on their order.

* `Cents.exactTotal` is the total in exact integers, and `Cents.PrefixesFit` says that the totals of
  all first parts of a list fit words when they are added to a start.
* `Cents.toInt_addAll` : a running total goes through just if they do.
* `Cents.sum_verdict` : the same of sums. Amounts that are not negative have the same sum in every
  order, and it overflows just if the total itself is too large.
-/

namespace MoveRating

namespace Cents

/-- The total in exact integers. -/
def exactTotal (amounts : List Cents) : Int := (amounts.map toInt).sum

/-- Whatever first part of the amounts is added to `start`, the total fits a word. -/
def PrefixesFit (start : Int) (amounts : List Cents) : Prop :=
  ∀ k, Fits (start + exactTotal (amounts.take k))

variable {a : Cents} {amounts reordered : List Cents} {start : Int}

/-! ### Exact totals -/

@[simp] theorem exactTotal_nil : exactTotal [] = 0 := rfl

@[simp] theorem exactTotal_cons : exactTotal (a :: amounts) = a.toInt + exactTotal amounts :=
  List.sum_cons

theorem exactTotal_perm (h : amounts.Perm reordered) : exactTotal amounts = exactTotal reordered :=
  (h.map toInt).sum_eq

theorem exactTotal_nonneg (h : ∀ a ∈ amounts, 0 ≤ a.toInt) : 0 ≤ exactTotal amounts := by
  induction amounts with
  | nil => exact Int.le_refl 0
  | cons a amounts ih =>
    obtain ⟨ha, hrest⟩ := List.forall_mem_cons.1 h
    rw [exactTotal_cons]
    exact Int.add_nonneg ha (ih hrest)

/-- A first part comes to no more than the whole. -/
theorem exactTotal_take_le (h : ∀ a ∈ amounts, 0 ≤ a.toInt) (k : Nat) :
    exactTotal (amounts.take k) ≤ exactTotal amounts := by
  induction amounts generalizing k with
  | nil => simp
  | cons a amounts ih =>
    cases k with
    | zero => exact exactTotal_nonneg h
    | succ k =>
      rw [List.take_succ_cons, exactTotal_cons, exactTotal_cons]
      exact Int.add_le_add_left (ih (List.forall_mem_cons.1 h).2 k) _

/-! ### First parts -/

@[simp] theorem prefixesFit_nil : PrefixesFit start [] ↔ Fits start := by
  simp [PrefixesFit]

/-- All first parts but the empty one go on from the first amount. -/
theorem prefixesFit_cons :
    PrefixesFit start (a :: amounts) ↔ Fits start ∧ PrefixesFit (start + a.toInt) amounts := by
  unfold PrefixesFit
  rw [← Nat.and_forall_add_one]
  simp [Int.add_assoc]

/-- The first of the first parts is empty. -/
theorem PrefixesFit.fits_start (h : PrefixesFit start amounts) : Fits start := by
  simpa using h 0

instance decidablePrefixesFit : ∀ start amounts, Decidable (PrefixesFit start amounts)
  | _, [] => decidable_of_iff _ prefixesFit_nil.symm
  | start, a :: amounts =>
    have := decidablePrefixesFit (start + a.toInt) amounts
    decidable_of_iff _ prefixesFit_cons.symm

/-- The totals of amounts that are not negative only grow, so that the last one decides. -/
theorem prefixesFit_iff_of_nonneg (h : ∀ a ∈ amounts, 0 ≤ a.toInt) :
    PrefixesFit 0 amounts ↔ exactTotal amounts ≤ Int64.maxValue.toInt := by
  constructor
  · intro hfits
    have := (hfits amounts.length).2
    rwa [List.take_length, Int.zero_add] at this
  · intro hmax k
    have hpart : 0 ≤ exactTotal (amounts.take k) :=
      exactTotal_nonneg fun a ha => h a (List.mem_of_mem_take ha)
    have hle := Int.le_trans (exactTotal_take_le h k) hmax
    rw [Int.zero_add]
    exact ⟨Int.le_trans (by decide) hpart, hle⟩

/-! ### Running totals -/

/-- A sum of two amounts is exact, or it overflows. -/
theorem toInt_add (a b : Cents) :
    toInt <$> a.add b = if Fits (a.toInt + b.toInt) then .ok (a.toInt + b.toInt)
      else .error .sum := by
  rw [← toInt_checked]
  unfold add checkedAdd
  rw [← comp_map]
  rfl

/-- A running total is exact if all totals on the way fit words, and overflows if one does not. -/
theorem toInt_addAll (start : Cents) (amounts : List Cents) :
    toInt <$> start.addAll amounts =
      if PrefixesFit start.toInt amounts then .ok (start.toInt + exactTotal amounts)
      else .error .sum := by
  induction amounts generalizing start with
  | nil =>
    rw [if_pos (prefixesFit_nil.2 start.fits_toInt), exactTotal_nil, Int.add_zero]
    rfl
  | cons a amounts ih =>
    have hadd := toInt_add start a
    change toInt <$> (start.add a >>= fun next => next.addAll amounts) = _
    simp only [prefixesFit_cons, and_iff_right start.fits_toInt]
    by_cases hfits : Fits (start.toInt + a.toInt)
    · -- all further totals start from the first one
      rw [if_pos hfits] at hadd
      obtain ⟨next, hnext, hcents⟩ := map_eq_ok_iff.1 hadd
      rw [hnext, ← hcents, exactTotal_cons, ← Int.add_assoc, ← hcents]
      exact ih next
    · rw [if_neg hfits, map_eq_error_iff] at hadd
      rw [hadd, if_neg fun hprefixes => hfits hprefixes.fits_start]
      rfl

theorem toInt_sum (amounts : List Cents) :
    toInt <$> sum amounts =
      if PrefixesFit 0 amounts then .ok (exactTotal amounts) else .error .sum := by
  have h := toInt_addAll zero amounts
  rwa [show zero.toInt = 0 from rfl, Int.zero_add] at h

/-- The cents of an outcome tell the outcome. -/
theorem map_toInt_inj {x y : Except Overflow Cents} : toInt <$> x = toInt <$> y ↔ x = y := by
  constructor
  · intro h
    cases y with
    | error cause => exact map_eq_error_iff.1 h
    | ok b =>
      obtain ⟨a, ha, hab⟩ := map_eq_ok_iff.1 h
      rw [ha, toInt_inj.1 hab]
  · rintro rfl
    rfl

theorem exists_sum_iff :
    (∃ total, sum amounts = .ok total ∧ total.toInt = exactTotal amounts) ↔
      PrefixesFit 0 amounts := by
  rw [← map_eq_ok_iff, toInt_sum]
  simp

theorem sum_eq_error_iff : sum amounts = .error .sum ↔ ¬PrefixesFit 0 amounts := by
  rw [← map_eq_error_iff (f := toInt), toInt_sum]
  simp

/-- Amounts of one total that are not negative have one sum. -/
theorem sum_perm (h : ∀ a ∈ amounts, 0 ≤ a.toInt) (hperm : amounts.Perm reordered) :
    sum reordered = sum amounts := by
  have h' : ∀ a ∈ reordered, 0 ≤ a.toInt := fun a ha => h a (hperm.mem_iff.2 ha)
  rw [← map_toInt_inj, toInt_sum, toInt_sum]
  simp only [prefixesFit_iff_of_nonneg h, prefixesFit_iff_of_nonneg h', exactTotal_perm hperm]

/-- A sum is exact if the totals of all first parts of the list fit words, and otherwise overflows.
If no amount is negative, it does not depend on their order, and overflows just if the exact total
lies above the largest word. -/
theorem sum_verdict (amounts : List Cents) :
    ((∃ total, sum amounts = .ok total ∧ total.toInt = exactTotal amounts) ↔
        ∀ k, Fits (exactTotal (amounts.take k))) ∧
      (sum amounts = .error .sum ↔ ¬∀ k, Fits (exactTotal (amounts.take k))) ∧
      ((∀ a ∈ amounts, 0 ≤ a.toInt) →
        (∀ reordered, amounts.Perm reordered → sum reordered = sum amounts) ∧
        (sum amounts = .error .sum ↔ Int64.maxValue.toInt < exactTotal amounts)) := by
  have hprefixes : PrefixesFit 0 amounts ↔ ∀ k, Fits (exactTotal (amounts.take k)) := by
    simp [PrefixesFit]
  refine ⟨exists_sum_iff.trans hprefixes, sum_eq_error_iff.trans (not_congr hprefixes), ?_⟩
  intro hnonneg
  refine ⟨fun _ hperm => sum_perm hnonneg hperm, ?_⟩
  rw [sum_eq_error_iff, prefixesFit_iff_of_nonneg hnonneg, Int.not_le]

/-- The largest amount and one cent overflow in either order. Together with the debt of a cent they
fit, but only if the debt is added before the cent. -/
theorem sum_verdict_largest :
    (∀ reordered, [Cents.mk Int64.maxValue, ⟨1⟩].Perm reordered →
        sum reordered = .error .sum) ∧
      exactTotal [⟨Int64.maxValue⟩, ⟨1⟩, ⟨-1⟩] = Int64.maxValue.toInt ∧
      sum [⟨Int64.maxValue⟩, ⟨1⟩, ⟨-1⟩] = .error .sum ∧
      sum [⟨Int64.maxValue⟩, ⟨-1⟩, ⟨1⟩] = .ok ⟨Int64.maxValue⟩ := by
  have hnonneg : ∀ a ∈ [Cents.mk Int64.maxValue, ⟨1⟩], 0 ≤ a.toInt := by decide
  obtain ⟨-, -, hverdict⟩ := sum_verdict [Cents.mk Int64.maxValue, ⟨1⟩]
  obtain ⟨horder, hlarge⟩ := hverdict hnonneg
  refine ⟨fun reordered hperm => ?_, by decide, by decide, by decide⟩
  rw [horder reordered hperm, hlarge]
  decide

end Cents

end MoveRating
