import MoveRating.Json.Record
import MoveRating.Proofs.DateText
import MoveRating.Proofs.DecimalText
import MoveRating.Proofs.Outcome

/-!
# Scalars read back

What `Json.scalarChars` writes is read back by `Json.scalar`, whatever follows it.

* `Json.Reads reader cs a` : the reader takes the value `a` off the front of every text that begins
  with the characters, unless what follows could belong to a number (`Json.EndsNumber`).
* `Json.unsigned_digits` : the digits of a number are read as that number.
* `Json.textSymbols_escaped` : an escaped text is read character by character.
* `Json.reads_scalar` : every scalar of a kind is read back. A decimal zero loses its sign
  (`Scalar.plain`).
* `Json.reads_item` : so is every item of a row.
-/

namespace MoveRating

/-- The scalar without the sign of a zero. -/
def Scalar.plain : Scalar → Scalar
  | .decimal d => .decimal d.plain
  | v => v

/-- The item without the sign of a zero. -/
def Item.plain (i : Item) : Item := i.map Scalar.plain

/-- The item may stand in the place of the field. -/
def Item.IsOf (i : Item) (f : Field) : Prop :=
  match i with
  | some v => v.IsOf f.kind
  | none => f.isOptional = true

namespace Json

/-! ### Readers -/

/-- No number goes on with these symbols. -/
def EndsNumber (s : List Symbol) : Prop :=
  ∀ a ∈ s.head?, isDigitSymbol a = false ∧ a ≠ some '.' ∧ isExponentMark a = false

/-- The reader takes the value off the front of a text that begins with the characters. -/
def Reads {α : Type} (reader : Reader α) (cs : List Char) (a : α) : Prop :=
  ∀ rest, EndsNumber rest → reader (cs.map some ++ rest) = .ok (a, rest)

theorem endsNumber_nil : EndsNumber [] := nofun

theorem endsNumber_cons {c : Char} (s : List Symbol)
    (hc : isDigitSymbol (some c) = false ∧ some c ≠ some '.' ∧ isExponentMark (some c) = false) :
    EndsNumber (some c :: s) := by
  rintro a ⟨⟩
  exact hc

theorem Reads.map {α β : Type} {reader : Reader α} {cs : List Char} {a : α}
    (h : Reads reader cs a) (f : α → β) :
    Reads (fun s => (reader s).map fun (a, s) => (f a, s)) cs (f a) := by
  intro rest hrest
  simp only [h rest hrest, Except.map]

@[simp] theorem skipGaps_cons {a : Symbol} {s : List Symbol} (h : isGap a = false) :
    skipGaps (a :: s) = a :: s := by
  simp [skipGaps, h]

/-! ### Numbers -/

section

variable {rest : List Symbol}

theorem takeDigits_digits (n : Nat) (hrest : EndsNumber rest) :
    takeDigits ((Numeral.digits n).map some ++ rest) =
      ((Numeral.digits n).map fun c => c.toNat - '0'.toNat, rest) := by
  have hdigits : ∀ a ∈ (Numeral.digits n).map some, isDigitSymbol a = true := by
    intro a ha
    obtain ⟨c, hc, rfl⟩ := List.mem_map.1 ha
    exact Numeral.isDigit_of_mem_digits hc
  have hends : ∀ a ∈ rest.head?, isDigitSymbol a = false := fun a ha => (hrest a ha).1
  rw [takeDigits, takeWhile_run hdigits hends, dropWhile_run hdigits hends, List.map_map]
  rfl

/-- No number is written with a zero in front. -/
theorem wholeDigits_digits (n : Nat) (hrest : EndsNumber rest) :
    wholeDigits ((Numeral.digits n).map some ++ rest) =
      .ok ((Numeral.digits n).map fun c => c.toNat - '0'.toNat, rest) := by
  have htake := takeDigits_digits n hrest
  obtain ⟨c, cs, hcs, hc⟩ := Numeral.exists_digits_eq_cons n
  rw [hcs] at htake ⊢
  have hsome : someDigits ((c :: cs).map some ++ rest) =
      .ok ((c :: cs).map fun c => c.toNat - '0'.toNat, rest) := by
    rw [someDigits, htake]
    rfl
  rw [wholeDigits, hsome]
  cases cs with
  | nil =>
    simp only [List.map_cons, List.map_nil]
    cases c.toNat - '0'.toNat with
    | zero => rfl
    | succ k => rfl
  | cons c' cs =>
    have hzero : c.toNat - '0'.toNat ≠ 0 := by
      intro hzero
      have hrange := Char.isDigit_iff_toNat.1 hc
      have hchar : c = '0' := Char.toNat_inj.1 (by omega)
      have hn : n = 0 := Numeral.digits_eq_zero_cons (hchar ▸ hcs)
      rw [hn] at hcs
      cases hcs
    obtain ⟨k, hk⟩ := Nat.exists_eq_succ_of_ne_zero hzero
    simp only [List.map_cons, hk]
    rfl

/-- Digits that fit into 64 bits are all leading ones. -/
theorem leading_of_lt {ds : List Nat} {start : Nat}
    (h : ds.foldl (fun n d => n * 10 + d) start < UInt64.size) :
    leading start ds = (ds.foldl (fun n d => n * 10 + d) start, 0) := by
  have hle : ∀ (ds : List Nat) (n : Nat), n ≤ ds.foldl (fun n d => n * 10 + d) n := by
    intro ds
    induction ds with
    | nil => exact fun _ => Nat.le_refl _
    | cons d ds ih => exact fun n => Nat.le_trans (by dsimp only; omega) (ih _)
  induction ds generalizing start with
  | nil => rfl
  | cons d ds ih =>
    have hstep : ¬UInt64.size ≤ start * 10 + d :=
      Nat.not_le_of_lt (Nat.lt_of_le_of_lt (hle ds _) h)
    rw [leading, if_neg hstep, ih h]
    rfl

theorem foldl_digits (n : Nat) :
    ((Numeral.digits n).map fun c => c.toNat - '0'.toNat).foldl (fun n d => n * 10 + d) 0 = n := by
  rw [List.foldl_map]
  simp only [Nat.mul_comm _ 10]
  exact Numeral.value_digits n

/-- The digits of a number are read as that number. -/
theorem unsigned_digits {n : Nat} (negative : Bool) (hn : n < UInt64.size)
    (hrest : EndsNumber rest) :
    unsigned negative ((Numeral.digits n).map some ++ rest) =
      .ok (wholeNumber negative n, rest) := by
  have hleading := leading_of_lt ((foldl_digits n).symm ▸ hn)
  rw [foldl_digits] at hleading
  rw [unsigned, wholeDigits_digits n hrest]
  simp only [bind, Except.bind, hleading]
  cases rest with
  | nil => rfl
  | cons a rest =>
    obtain ⟨-, hpoint, hmark⟩ := hrest a rfl
    simp [hpoint, hmark]

theorem number_digits {n : Nat} (hn : n < UInt64.size) (hrest : EndsNumber rest) :
    number ((Numeral.digits n).map some ++ rest) = .ok (.count (UInt64.ofNat n), rest) := by
  obtain ⟨c, cs, hcs, hc⟩ := Numeral.exists_digits_eq_cons n
  have hread := unsigned_digits false hn hrest
  rw [hcs] at hread ⊢
  -- a digit is no sign
  rw [List.map_cons, List.cons_append, number]
  · exact hread
  · rintro rest' ⟨⟩
    exact absurd hc (by decide)

theorem number_debit {n : Nat} {w : Int64} (hw : w.toInt = -(n : Int)) (hn : 0 < n)
    (hrest : EndsNumber rest) :
    number (some '-' :: (Numeral.digits n).map some ++ rest) = .ok (.debit w, rest) := by
  have hsize : n < UInt64.size := by
    have := w.le_toInt
    have : UInt64.size = 18446744073709551616 := rfl
    omega
  have hword : word? (-(n : Int)) = some w := word?_eq_some_iff.2 hw
  rw [List.cons_append, number, unsigned_digits true hsize hrest, wholeNumber]
  simp [Nat.ne_of_gt hn, hword]

end

/-! ### Words -/

section

variable {α : Type} {rest : List Symbol}

theorem beginsNumber_of_isDigit {c : Char} (hc : c.isDigit = true) :
    isGap (some c) = false ∧ beginsNumber (some c) = true := by
  refine ⟨?_, by simp [beginsNumber, isDigitSymbol, hc]⟩
  simp only [isGap, Bool.or_eq_false_iff, beq_eq_false_iff_ne]
  refine ⟨⟨⟨?_, ?_⟩, ?_⟩, ?_⟩
  all_goals
    rintro rfl
    exact absurd hc (by decide)

/-- A number of the wanted kind is found. -/
theorem numeral_of_number {convert : Number → Option α} {c : Char} {s : List Symbol} {n : Number}
    {a : α} (hc : isGap (some c) = false) (hbegins : beginsNumber (some c) = true)
    (hnumber : number (some c :: s) = .ok (n, rest)) (hconvert : convert n = some a) :
    numeral convert (some c :: s) = .ok (a, rest) := by
  rw [numeral]
  simp only [skipGaps_cons hc, List.head?_cons, Option.any_some, hbegins, if_true, hnumber]
  simp only [bind, Except.bind, found, hconvert]

theorem reads_word32 (n : UInt32) :
    Reads (numeral Number.toWord32?) (Numeral.digits n.toNat) n := by
  intro rest hrest
  have hsize : n.toNat < UInt64.size := Nat.lt_trans n.toNat_lt (by decide)
  have hnumber := number_digits hsize hrest
  have hconvert : Number.toWord32? (.count (UInt64.ofNat n.toNat)) = some n := by
    simp [Number.toWord32?, n.toNat_lt_size]
  obtain ⟨c, cs, hcs, hc⟩ := Numeral.exists_digits_eq_cons n.toNat
  rw [hcs] at hnumber ⊢
  obtain ⟨hgap, hbegins⟩ := beginsNumber_of_isDigit hc
  exact numeral_of_number hgap hbegins hnumber hconvert

theorem reads_word64 (w : Int64) :
    Reads (numeral Number.toWord64?) (Numeral.signed w.toInt) w := by
  intro rest hrest
  rw [Numeral.signed]
  by_cases hneg : w.toInt < 0
  · rw [if_pos hneg]
    have hnumber := number_debit (n := w.toInt.natAbs) (w := w) (by omega) (by omega) hrest
    exact numeral_of_number (by decide) (by decide) hnumber rfl
  · rw [if_neg hneg]
    have hsize : w.toInt.natAbs < UInt64.size := by
      have := w.toInt_lt
      have : UInt64.size = 18446744073709551616 := rfl
      omega
    have hnumber := number_digits hsize hrest
    have hconvert : Number.toWord64? (.count (UInt64.ofNat w.toInt.natAbs)) = some w := by
      rw [Number.toWord64?, UInt64.toNat_ofNat_of_lt' hsize, word?_eq_some_iff]
      omega
    obtain ⟨c, cs, hcs, hc⟩ := Numeral.exists_digits_eq_cons w.toInt.natAbs
    rw [hcs] at hnumber ⊢
    obtain ⟨hgap, hbegins⟩ := beginsNumber_of_isDigit hc
    exact numeral_of_number hgap hbegins hnumber hconvert

end

/-! ### Texts -/

theorem hexValue?_hexDigit (n : Nat) : hexValue? (hexDigit n) = some (n % 16) := by
  have hdigit : ∀ k < 16, hexValue? (Nat.digitChar k) = some k := by decide
  exact hdigit (n % 16) (Nat.mod_lt n (by decide))

/-- The escape of a control character. -/
theorem hexUnit_control {n : Nat} (hn : n < 0x20) (s : List Symbol) :
    hexUnit (some '0' :: some '0' :: some (hexDigit (n / 16)) :: some (hexDigit n) :: s) =
      .ok (n, s) := by
  have hfour : 4 ≤ ((some '0' :: some '0' :: some (hexDigit (n / 16)) :: some (hexDigit n) ::
      s).take 4).foldl (fun n a => n + symbolSize a) 0 := by
    have hpos := fun c : Char => c.utf8Size_pos
    simp only [List.take, List.foldl, symbolSize]
    have := hpos '0'
    have := hpos (hexDigit (n / 16))
    have := hpos (hexDigit n)
    omega
  have hzero : hexValue? '0' = some 0 := rfl
  rw [hexUnit, if_neg (Nat.not_lt_of_le hfour)]
  simp only [List.take, List.drop, List.mapM_cons, List.mapM_nil, Option.bind_some, hzero,
    hexValue?_hexDigit, Option.pure_def, Option.bind_eq_bind, List.foldl]
  simp only [Except.ok.injEq, Prod.mk.injEq, and_true]
  omega

/-- An escape stands for one character. -/
theorem textSymbols_escape {fuel : Nat} {c : Char} {read s rest : List Symbol}
    (hescape : escape s = .ok (c, rest)) :
    textSymbols (fuel + 1) read (some '\\' :: s) = textSymbols fuel (some c :: read) rest := by
  rw [textSymbols, if_neg (by decide), if_pos rfl, hescape]
  rfl

theorem escape_control {c : Char} (hc : c.toNat < 0x20) (s : List Symbol) :
    escape (some 'u' :: some '0' :: some '0' :: some (hexDigit (c.toNat / 16)) ::
      some (hexDigit c.toNat) :: s) = .ok (c, s) := by
  rw [escape, if_pos rfl, hexUnit_control hc]
  simp only [bind, Except.bind]
  rw [if_neg (by omega), if_neg (by omega), Char.ofNat_toNat]

/-- A character is read as it was escaped. -/
theorem textSymbols_escapeChar (fuel : Nat) (c : Char) (read s : List Symbol) :
    textSymbols (fuel + 1) read ((escapeChar c).map some ++ s) =
      textSymbols fuel (some c :: read) s := by
  unfold escapeChar
  split_ifs with hquote hbackslash hb ht hn hf hr hcontrol
  · subst hquote
    exact textSymbols_escape rfl
  · subst hbackslash
    exact textSymbols_escape rfl
  · subst hb
    exact textSymbols_escape rfl
  · subst ht
    exact textSymbols_escape rfl
  · subst hn
    exact textSymbols_escape rfl
  · subst hf
    exact textSymbols_escape rfl
  · subst hr
    exact textSymbols_escape rfl
  · exact textSymbols_escape (escape_control hcontrol s)
  · have hplain : isControl (some c) = false := by simp [isControl, hcontrol]
    rw [List.map_cons, List.map_nil, List.cons_append, List.nil_append, textSymbols,
      if_neg (by simpa using hquote), if_neg (by simpa using hbackslash), hplain]
    rfl

/-- An escaped text is read character by character. -/
theorem textSymbols_escaped {fuel : Nat} (cs : List Char) (read rest : List Symbol)
    (hfuel : cs.length < fuel) :
    textSymbols fuel read ((cs.flatMap escapeChar).map some ++ some '"' :: rest) =
      .ok (read.reverse ++ cs.map some, rest) := by
  induction cs generalizing fuel read with
  | nil =>
    obtain ⟨k, rfl⟩ := Nat.exists_eq_succ_of_ne_zero (Nat.ne_zero_of_lt hfuel)
    simp [textSymbols]
  | cons c cs ih =>
    obtain ⟨k, rfl⟩ := Nat.exists_eq_succ_of_ne_zero (Nat.ne_zero_of_lt hfuel)
    rw [List.flatMap_cons, List.map_append, List.append_assoc, textSymbols_escapeChar,
      ih _ (Nat.lt_of_succ_lt_succ hfuel)]
    simp

theorem length_le_flatMap_escapeChar (cs : List Char) :
    cs.length ≤ (cs.flatMap escapeChar).length := by
  have hpos : ∀ c, 1 ≤ (escapeChar c).length := by
    intro c
    unfold escapeChar
    split_ifs
    all_goals exact Nat.le_add_left _ _
  induction cs with
  | nil => exact Nat.le_refl _
  | cons c cs ih =>
    rw [List.flatMap_cons, List.length_append, List.length_cons]
    have := hpos c
    omega

theorem textBody_escaped (t : String) (rest : List Symbol) :
    textBody ((t.toList.flatMap escapeChar).map some ++ some '"' :: rest) = .ok (t, rest) := by
  have hfuel : t.toList.length <
      ((t.toList.flatMap escapeChar).map some ++ some '"' :: rest).length + 1 := by
    have := length_le_flatMap_escapeChar t.toList
    rw [List.length_append, List.length_map]
    omega
  have hsymbols : (t.toList.map some).mapM id = some t.toList := by
    induction t.toList with
    | nil => rfl
    | cons c cs ih => simp [ih]
  rw [textBody, textSymbols_escaped _ [] rest hfuel]
  simp only [bind, Except.bind, List.reverse_nil, List.nil_append, hsymbols, String.ofList_toList]

theorem quote_eq (t : String) (rest : List Symbol) :
    (quote t).map some ++ rest =
      some '"' :: ((t.toList.flatMap escapeChar).map some ++ some '"' :: rest) := by
  simp [quote]

/-- A text is read as it was quoted. -/
theorem text_quote (t : String) (rest : List Symbol) :
    text ((quote t).map some ++ rest) = .ok (t, rest) := by
  rw [quote_eq, text, skipGaps_cons (by decide)]
  exact textBody_escaped t rest

theorem reads_text (t : String) : Reads text (quote t) t := fun rest _ => text_quote t rest

theorem reads_name {choices : List String} {t : String} (h : t ∈ choices) :
    Reads (name choices) (quote t) t := by
  intro rest _
  rw [quote_eq, name, skipGaps_cons (by decide)]
  simp only [if_true, textBody_escaped, bind, Except.bind]
  simp [choose, found, h]

theorem reads_decimal (d : Decimal) : Reads decimal (quote d.text) d.plain := by
  intro rest _
  have htext := text_quote d.text rest
  rw [quote_eq] at htext ⊢
  rw [decimal]
  simp only [skipGaps_cons (show isGap (some '"') = false by decide), List.head?_cons, if_true,
    htext, bind, Except.bind, Decimal.parse?_text, found]

/-! ### Scalars -/

/-- Every scalar of a kind is read back. -/
theorem reads_scalar {kind : Kind} {v : Scalar} (h : v.IsOf kind) :
    Reads (scalar kind) (scalarChars v) v.plain := by
  cases v with
  | word32 n =>
    cases kind with
    | word32 => exact (reads_word32 n).map Scalar.word32
    | _ => cases h
  | word64 w =>
    cases kind with
    | word64 => exact (reads_word64 w).map Scalar.word64
    | _ => cases h
  | text t =>
    cases kind with
    | text => exact (reads_text t).map Scalar.text
    | _ => cases h
  | date d =>
    cases kind with
    | date =>
      intro rest _
      simp only [scalar, scalarChars, text_quote, bind, Except.bind, Date.parse?_text,
        Option.map_some, found, Scalar.plain]
    | _ => cases h
  | decimal d =>
    cases kind with
    | decimal => exact (reads_decimal d).map Scalar.decimal
    | _ => cases h
  | uuid u =>
    cases kind with
    | uuid =>
      intro rest _
      simp only [scalar, scalarChars, text_quote, bind, Except.bind, Uuid.parse?_text,
        Option.map_some, found, Scalar.plain]
    | _ => cases h
  | name t =>
    cases kind with
    | name choices => exact (reads_name h).map Scalar.name
    | _ => cases h

/-! ### Items -/

/-- No scalar is written with a gap in front, and none begins as null does. -/
theorem exists_scalarChars (v : Scalar) :
    ∃ c cs, scalarChars v = c :: cs ∧ isGap (some c) = false ∧ c ≠ 'n' := by
  have hquote : ∀ t, ∃ c cs, quote t = c :: cs ∧ isGap (some c) = false ∧ c ≠ 'n' :=
    fun _ => ⟨'"', _, List.cons_append .., by decide, by decide⟩
  have hdigits : ∀ n, ∃ c cs, Numeral.digits n = c :: cs ∧ isGap (some c) = false ∧ c ≠ 'n' := by
    intro n
    obtain ⟨c, cs, hcs, hc⟩ := Numeral.exists_digits_eq_cons n
    refine ⟨c, cs, hcs, (beginsNumber_of_isDigit hc).1, ?_⟩
    rintro rfl
    exact absurd hc (by decide)
  cases v with
  | word32 n => exact hdigits n.toNat
  | word64 w =>
    rw [scalarChars, Numeral.signed]
    split
    · exact ⟨'-', _, rfl, by decide, by decide⟩
    · exact hdigits _
  | text t => exact hquote t
  | date d => exact hquote d.text
  | decimal d => exact hquote d.text
  | uuid u => exact hquote u.text
  | name t => exact hquote t

/-- Every item of a row is read back. -/
theorem reads_item {f : Field} {i : Item} (h : Item.IsOf i f) :
    Reads (item f) (itemChars i) (Item.plain i) := by
  intro rest hrest
  cases i with
  | some v =>
    have hread := reads_scalar h rest hrest
    obtain ⟨c, cs, hcs, hgap, hnull⟩ := exists_scalarChars v
    rw [itemChars]
    rw [hcs, List.map_cons, List.cons_append] at hread ⊢
    have hnull' : (some (some c) == some (some 'n')) = false := by simpa using hnull
    rw [item, skipGaps_cons hgap]
    simp only [List.head?_cons, hnull', Bool.and_false, Bool.false_eq_true, if_false, hread]
    rfl
  | none =>
    have hoptional : f.isOptional = true := h
    rw [item, hoptional]
    rfl

end Json

end MoveRating
