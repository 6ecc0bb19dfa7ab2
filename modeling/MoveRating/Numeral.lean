/-!
# Decimal numerals

The digits of numbers as they stand in amounts, dates and decimals.

* `digits` and `padded` write a number, `value` reads one back (`value_digits`, `value_padded`).
* `tenPow n` is the weight of a digit with `n` digits after it.
-/

namespace MoveRating.Numeral

/-- The `n`-th power of ten. -/
def tenPow (n : Nat) : Nat := Nat.pow 10 n

/-- The decimal digits of `n`, most significant first; zero is the one digit `0`. -/
def digits (n : Nat) : List Char := Nat.toDigits 10 n

/-- The number that a list of digits denotes. -/
def value (cs : List Char) : Nat := Nat.ofDigitChars 10 cs 0

/-- The digits of `n`, with zeros in front up to `width`. -/
def padded (width n : Nat) : List Char :=
  List.replicate (width - (digits n).length) '0' ++ digits n

/-- An integer: a minus sign if it is negative, then its digits. -/
def signed (n : Int) : List Char :=
  if n < 0 then '-' :: digits n.natAbs else digits n.natAbs

/-- A number as text. -/
def text (n : Nat) : String := String.ofList (digits n)

/-- An integer as text. -/
def signedText (n : Int) : String := String.ofList (signed n)

@[simp] theorem tenPow_zero : tenPow 0 = 1 := rfl

theorem tenPow_succ (n : Nat) : tenPow (n + 1) = tenPow n * 10 := rfl

theorem tenPow_pos (n : Nat) : 0 < tenPow n := Nat.pow_pos (by decide)

@[simp] theorem value_digits (n : Nat) : value (digits n) = n :=
  Nat.ofDigitChars_toDigits (by decide) (by decide)

theorem value_cons_zero (cs : List Char) : value ('0' :: cs) = value cs := by
  simp [value, Nat.ofDigitChars]

@[simp] theorem value_padded (width n : Nat) : value (padded width n) = n := by
  unfold padded
  induction width - (digits n).length with
  | zero => simp
  | succ k ih => rw [List.replicate_succ, List.cons_append, value_cons_zero, ih]

/-- Every character of a numeral is a digit. -/
theorem isDigit_of_mem_digits {n : Nat} {c : Char} (h : c ∈ digits n) : c.isDigit = true :=
  Nat.isDigit_of_mem_toDigits (by decide) (by decide) h

end MoveRating.Numeral
