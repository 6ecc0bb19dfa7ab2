import Mathlib.Data.List.Infix
import MoveRating.Proofs.Json.Faults

/-!
# What a report speaks of

* `isSome_textAfter?_iff` : looking for a text finds it just if it occurs.
* `infix_shownChars_iff` : a text of plain characters occurs in a quoted text just if it occurs in
  the text itself. No escape has a part in it.
* `DataFault.mentionsMissing_iff` : a report speaks of a missing member if there is one, or if it
  quotes a text that speaks of one.
-/

namespace MoveRating

/-! ### Looking for a text -/

theorem isSome_textAfter?_iff {marker cs : List Char} :
    (textAfter? marker cs).isSome = true ↔ marker <:+: cs := by
  induction cs with
  | nil => simp [textAfter?, List.infix_nil]
  | cons c cs ih =>
    rw [List.infix_cons_iff, ← ih, textAfter?]
    cases hprefix : marker.isPrefixOf (c :: cs) with
    | true => simp [List.isPrefixOf_iff_prefix.1 hprefix]
    | false =>
      have hnot : ¬marker <+: c :: cs := by
        rw [← List.isPrefixOf_iff_prefix, hprefix]
        exact Bool.false_ne_true
      simp [hnot]

/-- A text does not begin where its first character is missing. -/
theorem infix_append_iff_of_not_mem {a : Char} {marker front rest : List Char} (ha : a ∉ front) :
    a :: marker <:+: front ++ rest ↔ a :: marker <:+: rest := by
  induction front with
  | nil => rfl
  | cons c front ih =>
    rw [List.mem_cons, not_or] at ha
    obtain ⟨hne, ha⟩ := ha
    rw [List.cons_append, List.infix_cons_iff, ih ha]
    refine or_iff_right ?_
    rintro ⟨t, ht⟩
    exact hne (List.cons.inj ht).1

/-! ### Quoted texts -/

/-- A character that is shown as it is. -/
def IsPlain (c : Char) : Prop := shownChar c = [c]

theorem isPlain_of_ascii {c : Char} (hlow : 0x20 ≤ c.toNat) (hhigh : c.toNat < 0x7F)
    (hquote : c ≠ '"') (hbackslash : c ≠ '\\') : IsPlain c := by
  have hcontrol : ∀ d : Char, d.toNat < 0x20 → c ≠ d := by
    rintro d hd rfl
    omega
  have hprintable : isPrintable c = true := by simp [isPrintable, hhigh, hlow]
  unfold IsPlain shownChar
  rw [if_neg (hcontrol _ (by decide)), if_neg (hcontrol _ (by decide)),
    if_neg (hcontrol _ (by decide)), if_neg (hcontrol _ (by decide)),
    if_neg (not_or.2 ⟨hquote, hbackslash⟩), if_pos hprintable]

theorem not_mem_toDigits (n : Nat) : 'm' ∉ Nat.toDigits 16 n := by
  have hdigit : ∀ k < 16, Nat.digitChar k ≠ 'm' := by decide
  induction n using Nat.strongRecOn with
  | _ n ih =>
    by_cases hn : n < 16
    · rw [Nat.toDigits_of_lt_base hn, List.mem_singleton]
      exact (hdigit n hn).symm
    · rw [Nat.toDigits_of_base_le (by decide) (Nat.le_of_not_lt hn), List.mem_append, not_or,
        List.mem_singleton]
      exact ⟨ih (n / 16) (by omega), (hdigit _ (Nat.mod_lt n (by decide))).symm⟩

/-- A character that is not shown as it is begins with a backslash, and no letter `m` follows. -/
theorem shownChar_cases (c : Char) :
    IsPlain c ∨ ∃ cs, shownChar c = '\\' :: cs ∧ 'm' ∉ cs := by
  unfold IsPlain shownChar
  split_ifs with hnull ht hn hr hquote hprintable
  · exact .inr ⟨_, rfl, by decide⟩
  · exact .inr ⟨_, rfl, by decide⟩
  · exact .inr ⟨_, rfl, by decide⟩
  · exact .inr ⟨_, rfl, by decide⟩
  · refine .inr ⟨[c], rfl, ?_⟩
    rcases hquote with rfl | rfl
    · decide
    · decide
  · exact .inl rfl
  · refine .inr ⟨['u', '\x7b'] ++ Nat.toDigits 16 c.toNat ++ ['\x7d'], rfl, ?_⟩
    simp [not_mem_toDigits]

/-- The characters of a quoted text after the opening quotation mark. -/
def shownChars (cs : List Char) : List Char := cs.flatMap shownChar ++ ['"']

theorem shownChars_cons (c : Char) (cs : List Char) :
    shownChars (c :: cs) = shownChar c ++ shownChars cs := by
  simp [shownChars]

theorem IsPlain.ne {c : Char} (h : IsPlain c) : c ≠ '\\' ∧ c ≠ '"' := by
  constructor
  · rintro rfl
    cases h
  · rintro rfl
    cases h

theorem prefix_of_prefix_shownChars {marker cs : List Char} (hplain : ∀ c ∈ marker, IsPlain c)
    (h : marker <+: shownChars cs) : marker <+: cs := by
  induction cs generalizing marker with
  | nil =>
    cases marker with
    | nil => exact List.nil_prefix
    | cons a marker =>
      obtain ⟨t, ht⟩ := h
      exact absurd (List.cons.inj ht).1 (hplain a List.mem_cons_self).ne.2
  | cons c cs ih =>
    cases marker with
    | nil => exact List.nil_prefix
    | cons a marker =>
      obtain ⟨ha, hplain⟩ := List.forall_mem_cons.1 hplain
      rw [shownChars_cons] at h
      rcases shownChar_cases c with hc | ⟨es, hes, -⟩
      · rw [hc, List.singleton_append, List.cons_prefix_cons] at h
        rw [List.cons_prefix_cons]
        exact ⟨h.1, ih hplain h.2⟩
      · rw [hes, List.cons_append, List.cons_prefix_cons] at h
        exact absurd h.1 ha.ne.1

/-- A text of plain characters occurs in a quoted text just if it occurs in the text itself. -/
theorem infix_shownChars_iff {marker cs : List Char} (hplain : ∀ c ∈ 'm' :: marker, IsPlain c) :
    'm' :: marker <:+: shownChars cs ↔ 'm' :: marker <:+: cs := by
  constructor
  · intro h
    induction cs with
    | nil =>
      rcases List.infix_cons_iff.1 h with h | h
      · have hprefix : 'm' :: marker <+: [] := prefix_of_prefix_shownChars hplain h
        exact hprefix.isInfix
      · exact h
    | cons c cs ih =>
      rw [shownChars_cons] at h
      rcases shownChar_cases c with hc | ⟨es, hes, hm⟩
      · rw [hc, List.singleton_append] at h
        rcases List.infix_cons_iff.1 h with h | h
        · refine (prefix_of_prefix_shownChars hplain ?_).isInfix
          rwa [shownChars_cons, hc]
        · exact List.infix_cons (ih h)
      · have hnot : 'm' ∉ '\\' :: es := by
          rw [List.mem_cons, not_or]
          exact ⟨by decide, hm⟩
        rw [hes, infix_append_iff_of_not_mem hnot] at h
        exact List.infix_cons (ih h)
  · rintro ⟨s, t, rfl⟩
    have hmarker : ∀ {cs : List Char}, (∀ c ∈ cs, IsPlain c) → cs.flatMap shownChar = cs := by
      intro cs hcs
      induction cs with
      | nil => rfl
      | cons c cs ih =>
        obtain ⟨hc, hcs⟩ := List.forall_mem_cons.1 hcs
        rw [List.flatMap_cons, hc, ih hcs]
        rfl
    refine ⟨s.flatMap shownChar, t.flatMap shownChar ++ ['"'], ?_⟩
    rw [shownChars, List.flatMap_append, List.flatMap_append, hmarker hplain]
    simp

/-! ### Reports -/

namespace DataFault

theorem prefix_report_missing (name : String) :
    "missing field".toList <+: (missing name).report.toList := by
  refine ⟨' ' :: (accented name).toList, ?_⟩
  change _ = ("missing field " ++ accented name).toList
  rw [String.toList_append]
  rfl

theorem infix_report_unexpectedText_iff {found : String} :
    "missing field".toList <:+: (unexpectedText found).report.toList ↔
      "missing field".toList <:+: found.toList := by
  have hreport : (unexpectedText found).report.toList =
      "invalid type: string \"".toList ++ shownChars found.toList := by
    change ("invalid type: string " ++ quoted found).toList = _
    simp [quoted, shownChars]
  have hascii : ∀ c ∈ "missing field".toList,
      0x20 ≤ c.toNat ∧ c.toNat < 0x7F ∧ c ≠ '"' ∧ c ≠ '\\' := by simp
  have hplain : ∀ c ∈ "missing field".toList, IsPlain c := by
    intro c hc
    obtain ⟨hlow, hhigh, hquote, hbackslash⟩ := hascii c hc
    exact isPlain_of_ascii hlow hhigh hquote hbackslash
  rw [hreport]
  exact (infix_append_iff_of_not_mem (by decide)).trans (infix_shownChars_iff hplain)

/-- The report of a fault speaks of a missing member if there is one, or if it quotes a text that
speaks of one. -/
theorem mentionsMissing_iff {fault : DataFault}
    (h : fault.OfForm ∨ fault = .tooFew ∨ ∃ name, fault = .missing name) :
    fault.mentionsMissing = true ↔ (∃ name, fault = .missing name) ∨
      ∃ found, fault = .unexpectedText found ∧ "missing field".toList <:+: found.toList := by
  rw [mentionsMissing, isSome_textAfter?_iff]
  -- nothing is found in a report that does not speak of the data
  have hsilent : ¬"missing field".toList <:+: "".toList := by
    rw [String.toList_empty, List.infix_nil]
    decide
  cases fault with
  | missing name => exact iff_of_true (prefix_report_missing name).isInfix (.inl ⟨name, rfl⟩)
  | unexpectedText found =>
    rw [infix_report_unexpectedText_iff]
    constructor
    · exact fun h => .inr ⟨found, rfl, h⟩
    · rintro (⟨_, ⟨⟩⟩ | ⟨_, ⟨⟩, h⟩)
      exact h
  | repeated _ => exact iff_of_false hsilent (by simp)
  | unexpected => exact iff_of_false hsilent (by simp)
  | unreadable => exact iff_of_false hsilent (by simp)
  | outOfRange => exact iff_of_false hsilent (by simp)
  | tooFew => exact iff_of_false hsilent (by simp)
  | unexpectedInteger _ => simp [OfForm] at h
  | invalidText _ => simp [OfForm] at h
  | unknownName _ _ => simp [OfForm] at h

end DataFault

end MoveRating
