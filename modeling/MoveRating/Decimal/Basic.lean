import MoveRating.Decimal.Rounding
import MoveRating.Numeral

/-!
# Decimals of 96 bits

Discounts are decimals: a coefficient of at most 96 bits over a power of ten of at most 28 places.

* `Decimal` keeps its places, so `0.10` and `0.1` are two decimals of one value (`Decimal.cmp`).
* `Decimal.fit?` rounds an exact coefficient to the most places that fit, a half to the even
  neighbour; products (`Decimal.mul?`) and differences (`Decimal.oneMinus?`) are exact and then
  fitted.
* `Decimal.nearestInt` rounds to a whole number, a half away from zero.
-/

namespace MoveRating

/-- Coefficients lie below the 96th power of two. -/
def Decimal.sizeLimit : Nat := 1 <<< 96

/-- A decimal number: `magnitude / 10 ^ places`, with a sign. -/
structure Decimal where
  /-- There is a minus sign. It may stand before a zero too. -/
  negative : Bool
  /-- The digits, without sign and point. -/
  magnitude : Nat
  /-- The number of digits after the point. -/
  places : Nat
  /-- The magnitude has at most 96 bits. -/
  size_lt : magnitude < Decimal.sizeLimit
  /-- There are at most 28 digits after the point. -/
  places_le : places ≤ 28
deriving DecidableEq, Repr

namespace Decimal

/-- The number without its point. -/
def coefficient (d : Decimal) : Int := if d.negative then -(d.magnitude : Int) else d.magnitude

/-- The decimal with the given coefficient and places, if they are in range. Zero has no sign. -/
def ofParts? (coefficient : Int) (places : Nat) : Option Decimal :=
  if h : coefficient.natAbs < sizeLimit ∧ places ≤ 28 then
    some ⟨decide (coefficient < 0), coefficient.natAbs, places, h.1, h.2⟩
  else none

theorem coefficient_of_ofParts? {c : Int} {p : Nat} {d : Decimal} (h : ofParts? c p = some d) :
    d.coefficient = c ∧ d.places = p := by
  unfold ofParts? at h
  split at h
  · obtain rfl := Option.some.inj h
    refine ⟨?_, rfl⟩
    change (if decide (c < 0) = true then -(c.natAbs : Int) else c.natAbs) = c
    by_cases hc : c < 0
    · rw [if_pos (decide_eq_true hc)]
      omega
    · rw [if_neg (by simp [hc])]
      omega
  · simp at h

/-- Zero, without places. -/
def zero : Decimal := ⟨false, 0, 0, by decide, by decide⟩

/-- One hundred, without places. -/
def hundred : Decimal := ⟨false, 100, 0, by decide, by decide⟩

/-- A 64-bit word as a decimal without places. -/
def ofWord (w : Int64) : Decimal :=
  ⟨decide (w.toInt < 0), w.toInt.natAbs, 0,
    by have := w.le_toInt; have := w.toInt_lt; unfold sizeLimit; omega, by decide⟩

/-- A 64-bit count as a decimal without places. -/
def ofCount (n : UInt64) : Decimal :=
  ⟨false, n.toNat, 0, by have := n.toNat_lt; unfold sizeLimit; omega, by decide⟩

/-- A number of basis points, ten thousandths, as a decimal of four places. -/
def ofBasisPoints (n : UInt32) : Decimal :=
  ⟨false, n.toNat, 4, by have := n.toNat_lt; unfold sizeLimit; omega, by decide⟩

/-! ### Order by value -/

/-- Compares two decimals by value, whatever their places. -/
def cmp (a b : Decimal) : Ordering :=
  compare (a.coefficient * Numeral.tenPow b.places) (b.coefficient * Numeral.tenPow a.places)

/-- The decimal lies between zero and one, both included. -/
def isUnit (d : Decimal) : Bool :=
  decide (0 ≤ d.coefficient) && decide (d.coefficient ≤ Numeral.tenPow d.places)

/-! ### Fitted arithmetic -/

/-- `coefficient` without its last `dropped` digits, rounded half to even. -/
def dropDigits (coefficient : Int) (dropped : Nat) : Int :=
  let size := Rounding.halfEven coefficient.natAbs (Numeral.tenPow dropped)
  if coefficient < 0 then -(size : Int) else size

/-- The decimal nearest to `coefficient / 10 ^ places` with the most places that fit. -/
def fit? (coefficient : Int) (places : Nat) : Option Decimal :=
  (List.range (places + 1)).findSome? fun dropped =>
    ofParts? (dropDigits coefficient dropped) (places - dropped)

/-- The product of two decimals; a zero factor gives zero without places. -/
def mul? (a b : Decimal) : Option Decimal :=
  if a.magnitude = 0 ∨ b.magnitude = 0 then some zero
  else fit? (a.coefficient * b.coefficient) (a.places + b.places)

/-- One less a decimal. -/
def oneMinus? (d : Decimal) : Option Decimal :=
  fit? (Numeral.tenPow d.places - d.coefficient) d.places

/-- The nearest whole number; a half goes away from zero. -/
def nearestInt (d : Decimal) : Int :=
  let size := Rounding.halfUp d.magnitude (Numeral.tenPow d.places)
  if d.negative then -(size : Int) else size

/-! ### Trailing zeros -/

/-- The magnitude and places left when up to `places` final zeros are taken off. -/
def stripZeros (magnitude : Nat) : Nat → Nat × Nat
  | 0 => (magnitude, 0)
  | places + 1 =>
    if magnitude % 10 = 0 then stripZeros (magnitude / 10) places else (magnitude, places + 1)

theorem stripZeros_le (magnitude places : Nat) : (stripZeros magnitude places).1 ≤ magnitude := by
  induction places generalizing magnitude with
  | zero => simp [stripZeros]
  | succ n ih =>
    unfold stripZeros
    split
    · exact Nat.le_trans (ih _) (Nat.div_le_self _ _)
    · exact Nat.le_refl _

theorem stripZeros_places_le (magnitude places : Nat) :
    (stripZeros magnitude places).2 ≤ places := by
  induction places generalizing magnitude with
  | zero => simp [stripZeros]
  | succ n ih =>
    unfold stripZeros
    split
    · exact Nat.le_trans (ih _) (by omega)
    · exact Nat.le_refl _

/-- The decimal of the same value without final zeros after the point, and without the sign of a
zero. -/
def normalize (d : Decimal) : Decimal :=
  ⟨d.negative && d.magnitude != 0, (stripZeros d.magnitude d.places).1,
    (stripZeros d.magnitude d.places).2, Nat.lt_of_le_of_lt (stripZeros_le _ _) d.size_lt,
    Nat.le_trans (stripZeros_places_le _ _) d.places_le⟩

/-! ### Moving the point -/

/-- The decimal divided by a power of ten, of which there are those up to the 28th. What does not
fit is rounded to 28 places, a half away from zero, and keeps its sign. -/
def shiftDown? (d : Decimal) (exponent : Nat) : Option Decimal :=
  if exponent ≤ 28 then
    let dropped := d.places + exponent - 28
    some ⟨d.negative, Rounding.halfUp d.magnitude (Numeral.tenPow dropped),
      d.places + exponent - dropped,
      Nat.lt_of_le_of_lt (Rounding.halfUp_le (Numeral.tenPow_pos _)) d.size_lt, by omega⟩
  else none

/-- The decimal multiplied by a power of ten, of which there are those up to the 28th. -/
def shiftUp? (d : Decimal) (exponent : Nat) : Option Decimal :=
  if exponent ≤ d.places then some { d with
    places := d.places - exponent, places_le := Nat.le_trans (Nat.sub_le _ _) d.places_le }
  else if exponent ≤ 28 then
    ((ofParts? (Numeral.tenPow exponent) 0).bind d.mul?).map normalize
  else none

end Decimal

end MoveRating
