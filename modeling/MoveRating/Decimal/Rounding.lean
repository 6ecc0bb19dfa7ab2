/-!
# Rounding quotients

The two ways in which a quotient of natural numbers is rounded to a whole number.

* `halfEven` takes the nearest number, and of two equally near ones the even one.
* `halfUp` takes the nearest number, and of two equally near ones the larger one.
-/

namespace MoveRating.Rounding

/-- The whole number nearest to `n / d`; a half goes to the even neighbour. -/
def halfEven (n d : Nat) : Nat :=
  let q := n / d
  let r := n % d
  if d < 2 * r ∨ (2 * r = d ∧ q % 2 = 1) then q + 1 else q

/-- The whole number nearest to `n / d`; a half goes up. -/
def halfUp (n d : Nat) : Nat := (2 * n + d) / (2 * d)

@[simp] theorem halfEven_one (n : Nat) : halfEven n 1 = n := by
  simp [halfEven]
  omega

@[simp] theorem halfUp_one (n : Nat) : halfUp n 1 = n := by
  unfold halfUp
  omega

theorem halfUp_le {n d : Nat} (h : 0 < d) : halfUp n d ≤ n := by
  have hn : n ≤ d * n := Nat.le_mul_of_pos_left n h
  refine Nat.le_of_lt_succ (Nat.div_lt_of_lt_mul ?_)
  rw [Nat.mul_assoc, Nat.succ_eq_add_one, Nat.mul_add, Nat.mul_one]
  omega

end MoveRating.Rounding
