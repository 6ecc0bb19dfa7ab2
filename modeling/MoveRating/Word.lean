/-!
# Checked 64-bit words

Weights and amounts are signed 64-bit words, and their sums and products are exact or refused.

* `word?` is the word that denotes an integer, if there is one (`word?_eq_some_iff`).
* `checkedMul` and `checkedAdd` are the exact product and sum, or the `Overflow` that stops them.
-/

namespace MoveRating

/-- A figure that leaves the range it is kept in. -/
inductive Overflow where
  /-- A product of two words. -/
  | product
  /-- A sum of two words. -/
  | sum
  /-- A product of two decimals. -/
  | decimalProduct
  /-- A difference of two decimals. -/
  | decimalDifference
deriving DecidableEq, Repr

/-- The report of an overflow. -/
def Overflow.message : Overflow → String
  | product => "attempt to multiply with overflow"
  | sum => "attempt to add with overflow"
  | decimalProduct => "Multiplication overflowed"
  | decimalDifference => "Subtraction overflowed"

/-- The word that denotes `n`, if `n` is in range. -/
def word? (n : Int) : Option Int64 :=
  if Int64.minValue.toInt ≤ n ∧ n ≤ Int64.maxValue.toInt then some (Int64.ofInt n) else none

/-- The word `word?` finds denotes its argument, and every word is found. -/
theorem word?_eq_some_iff {n : Int} {w : Int64} : word? n = some w ↔ w.toInt = n := by
  unfold word?
  split
  · next h =>
    rw [Int64.toInt_minValue, Int64.toInt_maxValue] at h
    rw [Option.some.injEq, ← Int64.toInt_inj, Int64.toInt_ofInt_of_le h.1 (by omega)]
    exact eq_comm
  · next h =>
    refine ⟨nofun, fun hw => (h ⟨?_, ?_⟩).elim⟩
    · exact hw ▸ w.minValue_le_toInt
    · exact hw ▸ w.toInt_le

/-- No word denotes an integer out of range, and only those lack one. -/
theorem word?_eq_none_iff {n : Int} :
    word? n = none ↔ n < Int64.minValue.toInt ∨ Int64.maxValue.toInt < n := by
  unfold word?
  split
  · simp only [reduceCtorEq, false_iff]
    omega
  · simp only [true_iff]
    omega

/-- The word for `n`, or `cause` if there is none. -/
def checked (cause : Overflow) (n : Int) : Except Overflow Int64 :=
  match word? n with
  | some w => .ok w
  | none => .error cause

theorem checked_eq_ok_iff {cause : Overflow} {n : Int} {w : Int64} :
    checked cause n = .ok w ↔ w.toInt = n := by
  rw [← word?_eq_some_iff]
  unfold checked
  cases word? n <;> simp

/-- The exact product of two words. -/
def checkedMul (a b : Int64) : Except Overflow Int64 := checked .product (a.toInt * b.toInt)

/-- The exact sum of two words. -/
def checkedAdd (a b : Int64) : Except Overflow Int64 := checked .sum (a.toInt + b.toInt)

end MoveRating
