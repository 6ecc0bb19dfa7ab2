import MoveRating.Proofs.DecimalText
import MoveRating.Proofs.Normal

/-!
# Decimal expansions

* `Expansion q` is the decimal expansion of a number that is not negative: its whole part, and
  digits after the point of which the last is not zero.
* `Decimal.wholeChars_eq` : the digits before the point are those of the whole part.
* `Decimal.IsNormal.exists_expansion` : a normal decimal that is not negative is written as the
  expansion of its value.
* `Decimal.toRat_eq_of_text_eq` : the text of a decimal tells its value.
-/

namespace MoveRating

open Numeral (digits value tenPow)

/-- The decimal expansion of a number that is not negative. -/
structure Expansion (q : Rat) where
  /-- The whole part of the number. -/
  whole : Nat
  /-- The digits after the point. There are none if the number is whole. -/
  fraction : List Char
  isDigit : ∀ c ∈ fraction, c.isDigit = true
  last_ne_zero : fraction.getLast? ≠ some '0'
  value_eq : q = whole + value fraction / tenPow fraction.length

/-- The expansion as characters, without a point if no digits follow. -/
def Expansion.chars {q : Rat} (x : Expansion q) : List Char :=
  if x.fraction = [] then digits x.whole else digits x.whole ++ '.' :: x.fraction

namespace Decimal

variable {d e : Decimal}

theorem wholeChars_eq (d : Decimal) : d.wholeChars = digits (d.magnitude / tenPow d.places) :=
  Numeral.take_padded _ _

theorem fractionChars_eq_nil_iff : d.fractionChars = [] ↔ d.places = 0 := by
  rw [← List.length_eq_zero_iff, length_fractionChars]

/-- The last digit after the point is the last digit of the magnitude. -/
theorem getLast?_fractionChars (h : d.places ≠ 0) :
    d.fractionChars.getLast? = some (Nat.digitChar (d.magnitude % 10)) := by
  have hlength := Numeral.length_padded (d.places + 1) d.magnitude
  rw [fractionChars, List.getLast?_drop, if_neg (by omega), Numeral.getLast?_padded]

/-- The digits on both sides of the point make up the magnitude. -/
theorem magnitude_eq (d : Decimal) :
    d.magnitude = tenPow d.places * (d.magnitude / tenPow d.places) + value d.fractionChars := by
  have h := d.ofDigitChars_fractionChars
  rw [wholeChars_eq, Nat.ofDigitChars_eq_ofDigitChars_zero, length_fractionChars] at h
  change tenPow d.places * value (digits (d.magnitude / tenPow d.places)) + value d.fractionChars =
    d.magnitude at h
  rw [Numeral.value_digits] at h
  exact h.symm

/-! ### Normal decimals -/

/-- A normal decimal ends in another digit than zero, if it has any after the point. -/
theorem IsNormal.getLast?_ne (h : d.IsNormal) : d.fractionChars.getLast? ≠ some '0' := by
  by_cases hplaces : d.places = 0
  · simp [fractionChars_eq_nil_iff.2 hplaces]
  · have hdigit : ∀ n < 10, n ≠ 0 → Nat.digitChar n ≠ '0' := by decide
    rw [getLast?_fractionChars hplaces, ne_eq, Option.some.injEq]
    exact hdigit _ (Nat.mod_lt _ (by decide)) (h.last.resolve_left hplaces)

theorem IsNormal.not_negative (h : d.IsNormal) (hnonneg : 0 ≤ d.toRat) : ¬d.negative = true := by
  intro hneg
  have hcoefficient : d.coefficient < 0 := coefficient_neg_iff.2 ⟨hneg, h.sign hneg⟩
  rw [toRat, le_div_iff₀ (tenPow_cast_pos _), zero_mul, Int.cast_nonneg_iff] at hnonneg
  exact Int.not_lt.2 hnonneg hcoefficient

/-- The value is the whole part and what the digits after the point add to it. -/
theorem toRat_of_not_negative (h : ¬d.negative = true) :
    d.toRat = (d.magnitude / tenPow d.places : Nat) +
      value d.fractionChars / tenPow d.fractionChars.length := by
  have hpos := tenPow_cast_pos d.places
  have hmagnitude : (d.magnitude : Rat) =
      tenPow d.places * (d.magnitude / tenPow d.places : Nat) + value d.fractionChars := by
    exact_mod_cast d.magnitude_eq
  rw [toRat, coefficient, if_neg h, Int.cast_natCast, length_fractionChars]
  field_simp
  exact hmagnitude

/-- A normal decimal that is not negative is written as the expansion of its value. -/
theorem IsNormal.exists_expansion {q : Rat} (h : d.IsNormal) (hq : d.toRat = q)
    (hnonneg : 0 ≤ q) : ∃ x : Expansion q, d.chars = x.chars := by
  subst hq
  have hsign := h.not_negative hnonneg
  refine ⟨⟨_, _, d.isDigit_of_mem_fractionChars, h.getLast?_ne, toRat_of_not_negative hsign⟩, ?_⟩
  rw [chars_eq, if_neg hsign, Expansion.chars, unsignedChars, ← wholeChars_eq]
  simp only [fractionChars_eq_nil_iff]

/-! ### Texts -/

@[simp] theorem toRat_plain (d : Decimal) : d.plain.toRat = d.toRat := by
  rw [toRat, coefficient_plain]
  rfl

/-- Decimals that are written alike have one value. -/
theorem toRat_eq_of_text_eq (h : d.text = e.text) : d.toRat = e.toRat := by
  have hread := congrArg parse? h
  rw [parse?_text, parse?_text, Option.some.injEq] at hread
  rw [← toRat_plain d, hread, toRat_plain]

end Decimal

end MoveRating
