import Mathlib.Data.List.TakeWhile
import MoveRating.Numeral

/-!
# Digits

How the digits of a number are told from what follows them, and what they say about it.

* `takeWhile_run`, `dropWhile_run` : a run of characters ends where the first other one stands.
* `Numeral.digits_eq_zero_cons` : a number begins with the digit zero only if it is zero.
* `Numeral.length_padded_of_lt` : a number that is small enough fills its width exactly.
* `Numeral.take_padded` : the digits before the last ones are those of a quotient.
-/

namespace MoveRating

/-! ### Runs -/

section

variable {α : Type} {p : α → Bool} {run rest : List α}

theorem takeWhile_eq_nil_of_head (hrest : ∀ a ∈ rest.head?, p a = false) :
    rest.takeWhile p = [] := by
  cases rest with
  | nil => rfl
  | cons a rest => simp [hrest a rfl]

theorem dropWhile_eq_self_of_head (hrest : ∀ a ∈ rest.head?, p a = false) :
    rest.dropWhile p = rest := by
  cases rest with
  | nil => rfl
  | cons a rest => simp [hrest a rfl]

theorem takeWhile_run (hrun : ∀ a ∈ run, p a = true) (hrest : ∀ a ∈ rest.head?, p a = false) :
    (run ++ rest).takeWhile p = run := by
  rw [List.takeWhile_append_of_pos hrun, takeWhile_eq_nil_of_head hrest, List.append_nil]

theorem dropWhile_run (hrun : ∀ a ∈ run, p a = true) (hrest : ∀ a ∈ rest.head?, p a = false) :
    (run ++ rest).dropWhile p = rest := by
  rw [List.dropWhile_append_of_pos hrun, dropWhile_eq_self_of_head hrest]

end

/-! ### Digits of a number -/

namespace Numeral

theorem digits_ne_nil (n : Nat) : digits n ≠ [] := Nat.toDigits_ne_nil

/-- A number begins with a digit. -/
theorem exists_digits_eq_cons (n : Nat) : ∃ c cs, digits n = c :: cs ∧ c.isDigit = true := by
  obtain ⟨c, cs, hcs⟩ := List.exists_cons_of_ne_nil (digits_ne_nil n)
  exact ⟨c, cs, hcs, isDigit_of_mem_digits (hcs ▸ List.mem_cons_self)⟩

/-- All digits but the last are those of a tenth. -/
theorem digits_of_le {n : Nat} (h : 10 ≤ n) :
    digits n = digits (n / 10) ++ [Nat.digitChar (n % 10)] :=
  Nat.toDigits_of_base_le (by decide) h

theorem digits_of_lt {n : Nat} (h : n < 10) : digits n = [Nat.digitChar n] :=
  Nat.toDigits_of_lt_base h

/-- A number with a zero in front is zero. -/
theorem digits_eq_zero_cons {n : Nat} {cs : List Char} (h : digits n = '0' :: cs) : n = 0 := by
  induction n using Nat.strongRecOn generalizing cs with
  | _ n ih =>
    by_cases hn : n < 10
    · rw [digits_of_lt hn] at h
      have hzero : ∀ m < 10, Nat.digitChar m = '0' → m = 0 := by decide
      exact hzero n hn (List.cons.inj h).1
    · rw [digits_of_le (Nat.le_of_not_lt hn)] at h
      obtain ⟨c, cs', hcs⟩ := List.exists_cons_of_ne_nil (digits_ne_nil (n / 10))
      rw [hcs, List.cons_append, List.cons.injEq] at h
      have := ih (n / 10) (by omega) (h.1 ▸ hcs)
      omega

theorem length_padded (width n : Nat) : width ≤ (padded width n).length := by
  simp only [padded, List.length_append, List.length_replicate]
  omega

theorem padded_ne_nil (width n : Nat) : padded width n ≠ [] := by
  simp [padded, digits_ne_nil]

/-- A number that is small enough fills its width. -/
theorem length_padded_of_lt {width n : Nat} (hwidth : 0 < width) (h : n < tenPow width) :
    (padded width n).length = width := by
  have := (Nat.length_toDigits_le_iff (b := 10) (by decide) hwidth).2 h
  simp only [padded, digits, List.length_append, List.length_replicate]
  omega

theorem isDigit_of_mem_padded {width n : Nat} {c : Char} (h : c ∈ padded width n) :
    c.isDigit = true := by
  rcases List.mem_append.1 h with h | h
  · rw [(List.mem_replicate.1 h).2]
    decide
  · exact isDigit_of_mem_digits h

/-- A padded number begins with a digit. -/
theorem exists_padded_eq_cons (width n : Nat) :
    ∃ c cs, padded width n = c :: cs ∧ c.isDigit = true := by
  obtain ⟨c, cs, hcs⟩ := List.exists_cons_of_ne_nil (padded_ne_nil width n)
  exact ⟨c, cs, hcs, isDigit_of_mem_padded (hcs ▸ List.mem_cons_self)⟩

/-- All digits but the last are those of a tenth, in one place less. -/
theorem padded_succ {width : Nat} (hwidth : 0 < width) (n : Nat) :
    padded (width + 1) n = padded width (n / 10) ++ [Nat.digitChar (n % 10)] := by
  unfold padded
  by_cases hn : n < 10
  · obtain ⟨w, rfl⟩ : ∃ w, width = w + 1 := ⟨width - 1, by omega⟩
    rw [Nat.div_eq_of_lt hn, Nat.mod_eq_of_lt hn, digits_of_lt hn, digits_of_lt (by decide)]
    simp [List.replicate_succ', Nat.digitChar]
  · rw [digits_of_le (Nat.le_of_not_lt hn)]
    simp [Nat.add_sub_add_right]

theorem getLast?_padded (width n : Nat) :
    (padded width n).getLast? = some (Nat.digitChar (n % 10)) := by
  unfold padded
  by_cases hn : n < 10
  · simp [digits_of_lt hn, Nat.mod_eq_of_lt hn]
  · simp [digits_of_le (Nat.le_of_not_lt hn)]

/-- The digits before the last `p` ones are those of the number without them. -/
theorem take_padded (p n : Nat) :
    (padded (p + 1) n).take ((padded (p + 1) n).length - p) = digits (n / tenPow p) := by
  induction p generalizing n with
  | zero =>
    have hdigits : padded 1 n = digits n := by
      have := List.length_pos_iff.2 (digits_ne_nil n)
      simp [padded, Nat.sub_eq_zero_of_le this]
    rw [Nat.sub_zero, List.take_length, tenPow_zero, Nat.div_one, hdigits]
  | succ p ih =>
    rw [padded_succ (Nat.succ_pos p), List.length_append, List.length_singleton,
      Nat.add_sub_add_right, List.take_append_of_le_length (Nat.sub_le _ _), ih,
      Nat.div_div_eq_div_mul, tenPow_succ, Nat.mul_comm]

/-- More digits never make a number smaller. -/
theorem le_ofDigitChars (cs : List Char) (n : Nat) : n ≤ Nat.ofDigitChars 10 cs n := by
  induction cs generalizing n with
  | nil => simp
  | cons c cs ih =>
    rw [Nat.ofDigitChars_cons]
    exact Nat.le_trans (by omega) (ih _)

end Numeral

end MoveRating
