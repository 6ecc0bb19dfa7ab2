import Mathlib.Data.List.Basic
import MoveRating.Proofs.Amount
import MoveRating.Proofs.Digits

/-!
# Amounts read back

The text of an amount tells the amount, over the whole range of words.

* `Cents.read?` reads a text as an exact integer: a minus sign or none, a dollar sign, the dollars,
  a point and two digits for the cents.
* `Cents.readSize_chars` : the dollars end at the point.
* `Cents.text_denotes` : an amount is read back from its text, and no two amounts share one.
-/

namespace MoveRating

open Numeral (digits padded value)

namespace Cents

/-! ### Reading -/

/-- Reads dollars and cents without a sign. -/
def readSize : List Char → Option Nat
  | '$' :: rest =>
    let dollars := rest.takeWhile Char.isDigit
    match rest.dropWhile Char.isDigit with
    | ['.', tens, ones] =>
      if dollars ≠ [] ∧ tens.isDigit ∧ ones.isDigit then
        some (100 * value dollars + value [tens, ones])
      else none
    | _ => none
  | _ => none

/-- Reads an amount in exact integers. -/
def read? (text : String) : Option Int :=
  match text.toList with
  | '-' :: size => (readSize size).map fun n => -(n : Int)
  | size => (readSize size).map Int.ofNat

/-! ### Texts -/

/-- A number of cents as characters. -/
def sizeChars (n : Nat) : List Char := '$' :: digits (n / 100) ++ '.' :: padded 2 (n % 100)

theorem text_eq (a : Cents) :
    a.text = String.ofList
      (if a.toInt < 0 then '-' :: sizeChars a.toInt.natAbs else sizeChars a.toInt.natAbs) := rfl

/-- A number below a hundred is padded to two digits. -/
theorem exists_padded_two {n : Nat} (h : n < 100) :
    ∃ tens ones, padded 2 n = [tens, ones] ∧ tens.isDigit = true ∧ ones.isDigit = true := by
  have hlength : (padded 2 n).length = 2 := Numeral.length_padded_of_lt (by decide) h
  obtain ⟨tens, ones, hdigits⟩ := List.length_eq_two.1 hlength
  refine ⟨tens, ones, hdigits, ?_, ?_⟩
  · exact Numeral.isDigit_of_mem_padded (hdigits ▸ List.mem_cons_self)
  · exact Numeral.isDigit_of_mem_padded (hdigits ▸ List.mem_cons_of_mem _ List.mem_cons_self)

/-- The dollars end at the point, and the two digits after it are the rest. -/
theorem readSize_chars (n : Nat) : readSize (sizeChars n) = some n := by
  obtain ⟨tens, ones, hcents, htens, hones⟩ := exists_padded_two (Nat.mod_lt n (by decide))
  have hvalue : value [tens, ones] = n % 100 := by
    rw [← hcents, Numeral.value_padded]
  have hpoint : ∀ c ∈ ('.' :: padded 2 (n % 100)).head?, c.isDigit = false := by
    rintro c ⟨⟩
    rfl
  have hdollars : ∀ c ∈ digits (n / 100), c.isDigit = true :=
    fun _ => Numeral.isDigit_of_mem_digits
  rw [sizeChars, List.cons_append, readSize]
  simp only [takeWhile_run hdollars hpoint, dropWhile_run hdollars hpoint]
  rw [hcents]
  simp only [Numeral.digits_ne_nil, htens, hones, Numeral.value_digits, hvalue, ne_eq,
    not_false_eq_true, and_self, if_true]
  rw [Nat.div_add_mod]

/-- An amount without a sign begins with a dollar sign, not with a minus sign. -/
theorem read?_sizeChars (n : Nat) : read? (String.ofList (sizeChars n)) = some (n : Int) := by
  rw [read?, String.toList_ofList, sizeChars, List.cons_append]
  change (readSize (sizeChars n)).map Int.ofNat = some (n : Int)
  rw [readSize_chars]
  rfl

theorem read?_debit (n : Nat) :
    read? (String.ofList ('-' :: sizeChars n)) = some (-(n : Int)) := by
  rw [read?, String.toList_ofList]
  change (readSize (sizeChars n)).map (fun n => -(n : Int)) = some (-(n : Int))
  rw [readSize_chars]
  rfl

/-- Every amount is read back from its text, the least one too, whose size is no word. So different
amounts have different texts. -/
theorem text_denotes (a b : Cents) :
    read? a.text = some a.toInt ∧ (a.text = b.text ↔ a = b) := by
  have hread : ∀ c : Cents, read? c.text = some c.toInt := by
    intro c
    rw [text_eq]
    by_cases hneg : c.toInt < 0
    · rw [if_pos hneg, read?_debit, Int.ofNat_natAbs_of_nonpos (Int.le_of_lt hneg), Int.neg_neg]
    · rw [if_neg hneg, read?_sizeChars, Int.natAbs_of_nonneg (Int.not_lt.1 hneg)]
  refine ⟨hread a, fun h => ?_, fun h => h ▸ rfl⟩
  have htoInt := hread a
  rw [h, hread b] at htoInt
  exact toInt_inj.1 (Option.some.inj htoInt).symm

/-- The least amount, and one of a few cents below zero. -/
example : read? "-$92233720368547758.08" = some Int64.minValue.toInt ∧
    read? "-$0.05" = some (-5) ∧ read? "-$0.5" = none := by
  decide

end Cents

end MoveRating
