import Mathlib.Algebra.GroupWithZero.Nat
import MoveRating.Date.Text
import MoveRating.Reimbursement
import MoveRating.Proofs.Digits

/-!
# Dates and identifiers read back

* `Date.parse?_text` : every date is read back from its text, also if its year has a sign or more
  than four digits.
* `Uuid.parse?_text` : every identifier is read back from its text.
-/

namespace MoveRating

/-! ### Dates -/

namespace Date

/-- A digit is no blank. -/
theorem isBlank_of_isDigit {c : Char} (h : c.isDigit = true) : isBlank c = false := by
  have hrange := Char.isDigit_iff_toNat.1 h
  simp only [Char.reduceToNat] at hrange
  simp only [isBlank, blankRanges, List.any_cons, List.any_nil, Bool.or_false, Bool.or_eq_false_iff,
    Bool.and_eq_false_iff, decide_eq_false_iff_not]
  omega

theorem dropBlanks_cons {c : Char} {cs : List Char} (h : isBlank c = false) :
    dropBlanks (c :: cs) = c :: cs := by
  simp [dropBlanks, h]

/-- There are no blanks before a number. -/
theorem dropBlanks_padded (width n : Nat) (rest : List Char) :
    dropBlanks (Numeral.padded width n ++ rest) = Numeral.padded width n ++ rest := by
  obtain ⟨c, cs, hcs, hc⟩ := Numeral.exists_padded_eq_cons width n
  rw [hcs, List.cons_append]
  exact dropBlanks_cons (isBlank_of_isDigit hc)

/-- A number that fills its width is read whole. -/
theorem takeShortNumber_padded {width n : Nat} (hwidth : 0 < width)
    (h : n < Numeral.tenPow width) (rest : List Char) :
    takeShortNumber width (Numeral.padded width n ++ rest) = some (n, rest) := by
  have hlength := Numeral.length_padded_of_lt hwidth h
  have htake : (Numeral.padded width n ++ rest).take width = Numeral.padded width n := by
    rw [List.take_append_of_le_length (Nat.le_of_eq hlength.symm), List.take_of_length_le
      (Nat.le_of_eq hlength)]
  have hall : (Numeral.padded width n).takeWhile Char.isDigit = Numeral.padded width n :=
    List.takeWhile_eq_self_iff.2 fun _ hc => Numeral.isDigit_of_mem_padded hc
  obtain ⟨c, cs, hcs, -⟩ := Numeral.exists_padded_eq_cons width n
  have hvalue := Numeral.value_padded width n
  have hdrop : (Numeral.padded width n ++ rest).drop (Numeral.padded width n).length = rest :=
    List.drop_left
  rw [takeShortNumber, htake, hall]
  rw [hcs] at hvalue hdrop ⊢
  simp only [hvalue, hdrop]

/-- A number of any length ends where the digits end. -/
theorem takeNumber_padded (width n : Nat) {rest : List Char}
    (hrest : ∀ c ∈ rest.head?, c.isDigit = false) :
    takeNumber (Numeral.padded width n ++ rest) = some (n, rest) := by
  have hdigits : ∀ c ∈ Numeral.padded width n, c.isDigit = true :=
    fun _ hc => Numeral.isDigit_of_mem_padded hc
  obtain ⟨c, cs, hcs, -⟩ := Numeral.exists_padded_eq_cons width n
  have hvalue := Numeral.value_padded width n
  rw [takeNumber, takeWhile_run hdigits hrest, dropWhile_run hdigits hrest]
  rw [hcs] at hvalue ⊢
  simp only [hvalue]

/-- A year before a dash. -/
theorem takeYear_yearDigits (year : Int) (rest : List Char) :
    takeYear (yearDigits year ++ '-' :: rest) = some (year, '-' :: rest) := by
  have hdash : ∀ c ∈ ('-' :: rest).head?, c.isDigit = false := by
    rintro c ⟨⟩
    decide
  by_cases hyear : 0 ≤ year ∧ year ≤ 9999
  · rw [yearDigits, if_pos hyear]
    have hlt : year.natAbs < Numeral.tenPow 4 := by
      have : Numeral.tenPow 4 = 10000 := by decide
      omega
    have hshort := takeShortNumber_padded (by decide) hlt ('-' :: rest)
    obtain ⟨c, cs, hcs, hc⟩ := Numeral.exists_padded_eq_cons 4 year.natAbs
    rw [hcs, List.cons_append] at hshort ⊢
    -- a digit is no sign
    rw [takeYear]
    · rw [hshort, Option.map_some]
      simp only [Int.natAbs_of_nonneg hyear.1]
    · rintro cs' ⟨⟩
      exact absurd hc (by decide)
    · rintro cs' ⟨⟩
      exact absurd hc (by decide)
  · rw [yearDigits, if_neg hyear]
    by_cases hneg : year < 0
    · rw [if_pos hneg, List.cons_append, takeYear, takeNumber_padded 4 year.natAbs hdash,
        Option.map_some]
      simp only [Option.some.injEq, Prod.mk.injEq, and_true]
      omega
    · rw [if_neg hneg, List.cons_append, takeYear, takeNumber_padded 4 year.natAbs hdash,
        Option.map_some]
      simp only [Option.some.injEq, Prod.mk.injEq, and_true]
      omega

/-- There are no blanks before a year. -/
theorem dropBlanks_yearDigits (year : Int) (rest : List Char) :
    dropBlanks (yearDigits year ++ rest) = yearDigits year ++ rest := by
  unfold yearDigits
  split
  · exact dropBlanks_padded _ _ _
  · rw [List.cons_append]
    split
    · exact dropBlanks_cons (by decide)
    · exact dropBlanks_cons (by decide)

/-- Every date is read back as it was written. -/
@[simp] theorem parse?_text (d : Date) : parse? d.text = some d := by
  have hmonth : d.month < Numeral.tenPow 2 := by
    have := d.month_lt
    have : Numeral.tenPow 2 = 100 := by decide
    omega
  have hday : d.day < Numeral.tenPow 2 := by
    have := d.day_lt
    have : Numeral.tenPow 2 = 100 := by decide
    omega
  have hdash : ∀ cs, dropBlanks ('-' :: cs) = '-' :: cs := fun _ => dropBlanks_cons (by decide)
  have hlast := takeShortNumber_padded (by decide) hday []
  have hlastBlanks := dropBlanks_padded 2 d.day []
  rw [List.append_nil] at hlast hlastBlanks
  rw [parse?, text, String.toList_ofList, chars, List.append_assoc, List.cons_append, ofChars?,
    dropBlanks_yearDigits, takeYear_yearDigits]
  simp only [Option.bind_eq_bind, Option.bind_some, hdash, takeDash, dropBlanks_padded,
    takeShortNumber_padded (Nat.zero_lt_two) hmonth, hlast, hlastBlanks]
  exact ofFields?_eq_some_iff.2 ⟨rfl, rfl, rfl⟩

end Date

/-! ### Identifiers -/

namespace Uuid

theorem digitOf?_digitChar : ∀ d : Fin 16, digitOf? (digitChar d) = some d := by decide

theorem mapM_digitOf? (ds : List (Fin 16)) : (ds.map digitChar).mapM digitOf? = some ds := by
  induction ds with
  | nil => rfl
  | cons d ds ih => simp [digitOf?_digitChar, ih]

theorem unhyphenate_hyphenate (lengths : List Nat) (cs : List Char)
    (h : lengths.sum ≤ cs.length) : unhyphenate lengths (hyphenate lengths cs) = some cs := by
  induction lengths generalizing cs with
  | nil => rfl
  | cons n lengths ih =>
    rw [List.sum_cons] at h
    have hlength : (cs.take n).length = n := by
      rw [List.length_take]
      omega
    have hdrop : (cs.take n ++ '-' :: hyphenate lengths (cs.drop n)).drop n =
        '-' :: hyphenate lengths (cs.drop n) := List.drop_left' hlength
    have htake : (cs.take n ++ '-' :: hyphenate lengths (cs.drop n)).take n = cs.take n :=
      List.take_left' hlength
    have hrest : lengths.sum ≤ (cs.drop n).length := by
      rw [List.length_drop]
      omega
    simp only [hyphenate, unhyphenate, hdrop, htake, ih _ hrest, Option.map_some,
      List.take_append_drop]

theorem length_hyphenate (lengths : List Nat) (cs : List Char) (h : lengths.sum ≤ cs.length) :
    (hyphenate lengths cs).length = cs.length + lengths.length := by
  induction lengths generalizing cs with
  | nil => rfl
  | cons n lengths ih =>
    rw [List.sum_cons] at h
    rw [hyphenate, List.length_append, List.length_cons, ih _ (by rw [List.length_drop]; omega),
      List.length_take, List.length_drop, List.length_cons]
    omega

/-- The text of an identifier is one byte per character. -/
theorem utf8Size_of_mem_hyphenate (lengths : List Nat) {cs : List Char}
    (hcs : ∀ c ∈ cs, c.utf8Size = 1) : ∀ c ∈ hyphenate lengths cs, c.utf8Size = 1 := by
  induction lengths generalizing cs with
  | nil => exact hcs
  | cons n lengths ih =>
    intro c hc
    rw [hyphenate, List.mem_append, List.mem_cons] at hc
    rcases hc with hc | rfl | hc
    · exact hcs c (List.mem_of_mem_take hc)
    · rfl
    · exact ih (fun c hc => hcs c (List.mem_of_mem_drop hc)) c hc

theorem utf8ByteSize_ofList {cs : List Char} (hcs : ∀ c ∈ cs, c.utf8Size = 1) :
    (String.ofList cs).utf8ByteSize = cs.length := by
  induction cs with
  | nil => rfl
  | cons c cs ih =>
    obtain ⟨hc, hcs⟩ := List.forall_mem_cons.1 hcs
    rw [String.ofList_cons, String.utf8ByteSize_append, String.utf8ByteSize_singleton, hc, ih hcs,
      List.length_cons, Nat.add_comm]

/-- Every identifier is read back as it was written. -/
@[simp] theorem parse?_text (u : Uuid) : parse? u.text = some u := by
  have hroom : groups.sum ≤ (u.digits.map digitChar).length := by
    rw [List.length_map, u.length_eq]
    decide
  have hascii : ∀ c ∈ u.digits.map digitChar, c.utf8Size = 1 := by
    have hdigit : ∀ d : Fin 16, (digitChar d).utf8Size = 1 := by decide
    simpa using fun d _ => hdigit d
  have hsize : u.text.utf8ByteSize = 36 := by
    rw [text, utf8ByteSize_ofList (utf8Size_of_mem_hyphenate groups hascii),
      length_hyphenate groups _ hroom, List.length_map, u.length_eq]
    rfl
  rw [parse?, hsize]
  simp only [text, String.toList_ofList, ofHyphenated?, unhyphenate_hyphenate _ _ hroom,
    Option.bind_some, ofDigits?, mapM_digitOf?, u.length_eq, dif_pos]

end Uuid

end MoveRating
