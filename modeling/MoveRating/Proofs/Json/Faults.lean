import MoveRating.Json.Record
import MoveRating.Proofs.Outcome

/-!
# Faults of readers

With which faults the readers of JSON stop.

* `Json.OnlyFaults P x` : the outcome is no fault of the data, unless one with the property `P`. A
  sequence of such computations is one again (`Json.OnlyFaults.bind`).
* `Json.onlyFaults_scalar` : what a scalar may be at fault for.
* `Json.onlyFaults_allMembers` : while members are read none is known to be missing.
-/

namespace MoveRating

/-- The fault lies in the form of what is there, and nothing but an unexpected text is quoted. -/
def DataFault.OfForm : DataFault → Prop
  | unexpected | unexpectedText _ | unreadable | outOfRange | repeated _ => True
  | missing _ | tooFew | unexpectedInteger _ | invalidText _ | unknownName _ _ => False

/-- A kind of scalar that is neither a decimal nor a name. -/
def Kind.Plain : Kind → Prop
  | .decimal | .name _ => False
  | _ => True

instance : DecidablePred Kind.Plain
  | .decimal | .name _ => isFalse id
  | .word32 | .word64 | .text | .date | .uuid => isTrue trivial

namespace Json

variable {α β : Type} {P : DataFault → Prop}

/-! ### Computations and their faults -/

/-- The outcome is no fault of the data, unless one with the property. -/
def OnlyFaults (P : DataFault → Prop) (x : Except Problem α) : Prop :=
  ∀ fault, x = .error (.data fault) → P fault

namespace OnlyFaults

@[simp] theorem ok (a : α) : OnlyFaults P (.ok a : Except Problem α) := nofun

@[simp] theorem truncated : OnlyFaults P (.error .truncated : Except Problem α) := nofun

@[simp] theorem malformed : OnlyFaults P (.error .malformed : Except Problem α) := nofun

@[simp] theorem data_iff {fault : DataFault} :
    OnlyFaults P (.error (.data fault) : Except Problem α) ↔ P fault := by
  refine ⟨fun h => h fault rfl, ?_⟩
  rintro h fault' ⟨⟩
  exact h

theorem bind {x : Except Problem α} {f : α → Except Problem β} (hx : OnlyFaults P x)
    (hf : ∀ a, OnlyFaults P (f a)) : OnlyFaults P (x >>= f) := by
  intro fault h
  rcases bind_eq_error_iff.1 h with h | ⟨a, -, h⟩
  · exact hx fault h
  · exact hf a fault h

theorem map {x : Except Problem α} {f : α → β} (hx : OnlyFaults P x) : OnlyFaults P (x.map f) :=
  fun fault h => hx fault (map_eq_error_iff.1 h)

theorem mono {Q : DataFault → Prop} {x : Except Problem α} (hx : OnlyFaults P x)
    (h : ∀ fault, P fault → Q fault) : OnlyFaults Q x :=
  fun fault hfault => h fault (hx fault hfault)

end OnlyFaults

open OnlyFaults (ok truncated malformed data_iff)

/-! ### Texts -/

theorem onlyFaults_word (letters : List Char) (s : List Symbol) :
    OnlyFaults P (word letters s) := by
  induction letters generalizing s with
  | nil => exact ok _
  | cons c letters ih =>
    cases s with
    | nil => exact truncated
    | cons a s =>
      rw [word]
      split
      · exact ih s
      · exact malformed

theorem onlyFaults_colon (s : List Symbol) : OnlyFaults P (colon s) := by
  rw [colon]
  split
  · exact truncated
  · exact ok _
  · exact malformed

theorem onlyFaults_hexUnit (s : List Symbol) : OnlyFaults P (hexUnit s) := by
  rw [hexUnit]
  split
  · exact truncated
  · split
    · exact ok _
    · exact malformed

theorem onlyFaults_trailingUnit (lead : Nat) (s : List Symbol) :
    OnlyFaults P (trailingUnit lead s) := by
  refine (onlyFaults_word _ s).bind fun ⟨_, s⟩ => (onlyFaults_hexUnit s).bind fun ⟨_, s⟩ => ?_
  dsimp only
  split
  · exact ok _
  · exact malformed

theorem onlyFaults_escape (s : List Symbol) : OnlyFaults P (escape s) := by
  rcases s with _ | ⟨_ | c, s⟩
  · exact truncated
  · exact malformed
  · rw [escape]
    split
    · refine (onlyFaults_hexUnit s).bind fun ⟨_, s⟩ => ?_
      dsimp only
      split
      · exact malformed
      · split
        · exact onlyFaults_trailingUnit _ s
        · exact ok _
    · split
      · exact ok _
      · exact malformed

theorem onlyFaults_textSymbols (fuel : Nat) (read s : List Symbol) :
    OnlyFaults P (textSymbols fuel read s) := by
  induction fuel generalizing read s with
  | zero => exact truncated
  | succ fuel ih =>
    cases s with
    | nil => exact truncated
    | cons a s =>
      rw [textSymbols]
      split
      · exact ok _
      · split
        · exact (onlyFaults_escape s).bind fun ⟨_, s⟩ => ih _ s
        · split
          · exact malformed
          · exact ih _ s

theorem onlyFaults_textBody (s : List Symbol) : OnlyFaults P (textBody s) := by
  refine (onlyFaults_textSymbols _ _ s).bind fun ⟨symbols, rest⟩ => ?_
  dsimp only
  split
  · exact ok _
  · exact malformed

/-! ### Numbers -/

theorem onlyFaults_someDigits (s : List Symbol) : OnlyFaults P (someDigits s) := by
  rw [someDigits]
  split
  · exact truncated
  · exact malformed
  · exact ok _

theorem onlyFaults_wholeDigits (s : List Symbol) : OnlyFaults P (wholeDigits s) := by
  refine (onlyFaults_someDigits s).bind fun ⟨ds, rest⟩ => ?_
  dsimp only
  split
  · exact malformed
  · exact ok _

theorem onlyFaults_exponentDigits (s : List Symbol) : OnlyFaults P (exponentDigits s) := by
  rw [exponentDigits.eq_def]
  split
  · exact (onlyFaults_someDigits _).map
  · exact (onlyFaults_someDigits _).map
  · exact (onlyFaults_someDigits _).map

theorem onlyFaults_approximately (negative : Bool) (digits : Nat) (shift : Int)
    (s : List Symbol) : OnlyFaults P (approximately negative digits shift s) := by
  rw [approximately.eq_def]
  dsimp only
  -- whatever the exponent is, the number is found or too large
  split
  · refine (onlyFaults_exponentDigits _).bind fun ⟨_, s⟩ => ?_
    dsimp only
    split
    · exact ok _
    · exact malformed
  · refine (onlyFaults_exponentDigits _).bind fun ⟨_, s⟩ => ?_
    dsimp only
    split
    · exact ok _
    · exact malformed
  · refine (ok _).bind fun ⟨_, s⟩ => ?_
    dsimp only
    split
    · exact ok _
    · exact malformed

theorem onlyFaults_unsigned (negative : Bool) (s : List Symbol) :
    OnlyFaults P (unsigned negative s) := by
  refine (onlyFaults_wholeDigits s).bind fun ⟨ds, s⟩ => ?_
  dsimp only
  split
  · refine (onlyFaults_someDigits _).bind fun ⟨fs, s⟩ => ?_
    exact onlyFaults_approximately _ _ _ _
  · split
    · exact onlyFaults_approximately _ _ _ _
    · exact ok _

theorem onlyFaults_number (s : List Symbol) : OnlyFaults P (number s) := by
  rw [number.eq_def]
  split
  · exact onlyFaults_unsigned _ _
  · exact onlyFaults_unsigned _ _

/-! ### Values that are passed over -/

theorem onlyFaults_skipEscape (s : List Symbol) : OnlyFaults P (skipEscape s) := by
  rcases s with _ | ⟨_ | c, s⟩
  · exact truncated
  · exact malformed
  · rw [skipEscape]
    split
    · exact (onlyFaults_hexUnit s).map
    · split
      · exact ok _
      · exact malformed

theorem onlyFaults_skipSymbols (fuel : Nat) (s : List Symbol) :
    OnlyFaults P (skipSymbols fuel s) := by
  induction fuel generalizing s with
  | zero => exact truncated
  | succ fuel ih =>
    cases s with
    | nil => exact truncated
    | cons a s =>
      rw [skipSymbols]
      split
      · exact ok _
      · split
        · exact (onlyFaults_skipEscape s).bind fun ⟨_, s⟩ => ih s
        · split
          · exact malformed
          · exact ih s

theorem onlyFaults_skipDigits (s : List Symbol) : OnlyFaults P (skipDigits s) := by
  rw [skipDigits]
  split
  · exact malformed
  · exact ok _

theorem onlyFaults_skipExponent (s : List Symbol) : OnlyFaults P (skipExponent s) := by
  have hdigits : ∀ s : List Symbol, OnlyFaults P
      (skipDigits s >>= fun s => .ok ((), s) : Except Problem (Unit × List Symbol)) :=
    fun s => (onlyFaults_skipDigits s).bind fun _ => ok _
  rw [skipExponent.eq_def]
  split
  · split
    · exact hdigits _
    · exact hdigits _
    · exact hdigits _
  · split
    · exact hdigits _
    · exact hdigits _
    · exact hdigits _
  · exact ok _

theorem onlyFaults_skipNumber (s : List Symbol) : OnlyFaults P (skipNumber s) := by
  unfold skipNumber
  dsimp only
  split
  · exact malformed
  · exact malformed
  · split
    · exact (onlyFaults_skipDigits _).bind fun s => onlyFaults_skipExponent s
    · exact onlyFaults_skipExponent _

section

variable {care : Care} (htext : ∀ s, OnlyFaults P (care.text s))
  (hnumber : ∀ s, OnlyFaults P (care.number s))

include htext in
theorem onlyFaults_passName (s : List Symbol) : OnlyFaults P (passName care s) := by
  cases s with
  | nil => exact truncated
  | cons a s =>
    rw [passName]
    split
    · exact (htext s).bind fun ⟨_, s⟩ => onlyFaults_colon s
    · exact malformed

include htext hnumber in
theorem onlyFaults_passSimple (s : List Symbol) : OnlyFaults P (passSimple care s) := by
  cases s with
  | nil => exact truncated
  | cons a s =>
    rw [passSimple]
    split
    · exact htext s
    · split
      · exact hnumber _
      · split
        · exact onlyFaults_word _ _
        · exact malformed

include htext hnumber in
theorem onlyFaults_passFrom (fuel : Nat) (place : Place) (opened : List Enclosure)
    (s : List Symbol) : OnlyFaults P (passFrom care fuel place opened s) := by
  induction fuel generalizing place opened s with
  | zero => exact truncated
  | succ fuel ih =>
    cases place with
    | value =>
      rw [passFrom]
      split
      · exact truncated
      · split
        · split
          · exact malformed
          · exact ih _ _ _
        · exact (onlyFaults_passSimple htext hnumber _).bind fun ⟨_, s⟩ => ih _ _ s
    | opened =>
      rw [passFrom]
      split
      · exact truncated
      · split
        · exact ih _ _ _
        · exact ih _ _ _
    | element =>
      rw [passFrom]
      split
      · exact (onlyFaults_passName htext _).bind fun ⟨_, s⟩ => ih _ _ s
      · exact ih _ _ s
    | after =>
      cases opened with
      | nil => exact ok _
      | cons e outer =>
        rw [passFrom]
        split
        · exact truncated
        · split
          · exact ih _ _ _
          · split
            · exact ih _ _ _
            · exact malformed

end

theorem onlyFaults_pass_loose (s : List Symbol) : OnlyFaults P (pass .loose s) :=
  onlyFaults_passFrom (fun s => onlyFaults_skipSymbols _ s) onlyFaults_skipNumber _ _ _ s

/-! ### Scalars -/

theorem onlyFaults_mismatch (s : List Symbol) :
    OnlyFaults DataFault.OfForm (.error (mismatch s) : Except Problem α) := by
  -- the problem of a reader without faults of the data is no such fault
  have hproblem : ∀ {β : Type} {x : Except Problem β} {problem : Problem},
      OnlyFaults DataFault.OfForm x → x = .error problem →
        OnlyFaults DataFault.OfForm (.error problem : Except Problem α) := by
    rintro β x problem hx rfl fault ⟨⟩
    exact hx fault rfl
  rw [mismatch.eq_def]
  split
  · exact truncated
  · split
    · split
      · exact data_iff.2 trivial
      · next h => exact hproblem (onlyFaults_textBody _) h
    · split
      · exact data_iff.2 trivial
      · split
        · split
          · exact data_iff.2 trivial
          · next h => exact hproblem (onlyFaults_number _) h
        · split
          · split
            · exact data_iff.2 trivial
            · next h => exact hproblem (onlyFaults_word _ _) h
          · exact malformed

theorem onlyFaults_found {fault : DataFault} (h : P fault) (s : List Symbol) (a? : Option α) :
    OnlyFaults P (found fault s a?) := by
  cases a? with
  | none => exact data_iff.2 h
  | some a => exact ok _

theorem onlyFaults_numeral (convert : Number → Option α) (s : List Symbol) :
    OnlyFaults DataFault.OfForm (numeral convert s) := by
  rw [numeral]
  dsimp only
  split
  · exact (onlyFaults_number _).bind fun ⟨n, s⟩ => onlyFaults_found trivial s _
  · exact onlyFaults_mismatch _

theorem onlyFaults_text (s : List Symbol) : OnlyFaults DataFault.OfForm (text s) := by
  rw [text]
  split
  · exact onlyFaults_textBody _
  · exact onlyFaults_mismatch _

theorem onlyFaults_scalar {kind : Kind} (hkind : kind.Plain) (s : List Symbol) :
    OnlyFaults DataFault.OfForm (scalar kind s) := by
  cases kind with
  | word32 => exact (onlyFaults_numeral _ s).map
  | word64 => exact (onlyFaults_numeral _ s).map
  | text => exact (onlyFaults_text s).map
  | date => exact (onlyFaults_text s).bind fun ⟨t, s⟩ => onlyFaults_found trivial s _
  | uuid => exact (onlyFaults_text s).bind fun ⟨t, s⟩ => onlyFaults_found trivial s _
  | decimal => cases hkind
  | name choices => cases hkind

theorem onlyFaults_null (s : List Symbol) : OnlyFaults DataFault.OfForm (null s) := by
  rw [null]
  split
  · exact onlyFaults_word _ _
  · exact onlyFaults_mismatch _

theorem onlyFaults_item {f : Field} (hkind : f.kind.Plain) (s : List Symbol) :
    OnlyFaults DataFault.OfForm (item f s) := by
  rw [item]
  dsimp only
  split
  · exact (onlyFaults_null _).map
  · exact (onlyFaults_scalar hkind _).map

/-! ### Members -/

section

variable {τ ν : Type} {reader : MemberReader τ ν} {members : List (String × τ)}
  (hvalue : ∀ e ∈ members, ∀ s, OnlyFaults DataFault.OfForm (reader.value e.2 s))

include hvalue

theorem onlyFaults_namedMember (name : String) (g : Gathered ν) (s : List Symbol) :
    OnlyFaults DataFault.OfForm (namedMember reader members .passed name g s) := by
  rw [namedMember]
  cases hm : members.lookup name with
  | none => exact (onlyFaults_colon s).bind fun ⟨_, s⟩ => (onlyFaults_pass_loose s).map
  | some m =>
    obtain ⟨l₁, l₂, hmembers, -⟩ := List.lookup_eq_some_iff.1 hm
    have hmem : (name, m) ∈ members := hmembers ▸ List.mem_append_right _ List.mem_cons_self
    dsimp only
    split
    · exact data_iff.2 trivial
    · exact (onlyFaults_colon s).bind fun ⟨_, s⟩ => (hvalue _ hmem s).bind fun ⟨v, s⟩ => ok _

theorem onlyFaults_oneMember (g : Gathered ν) (s : List Symbol) :
    OnlyFaults DataFault.OfForm (oneMember reader members .passed g s) := by
  rw [oneMember]
  split
  · exact truncated
  · split
    · exact (onlyFaults_textBody _).bind fun ⟨name, s⟩ => onlyFaults_namedMember hvalue name g s
    · exact malformed

theorem onlyFaults_moreMembers (fuel : Nat) (g : Gathered ν) (s : List Symbol) :
    OnlyFaults DataFault.OfForm (moreMembers reader members .passed fuel g s) := by
  induction fuel generalizing g s with
  | zero => exact truncated
  | succ fuel ih =>
    rw [moreMembers]
    split
    · exact truncated
    · split
      · exact ok _
      · split
        · exact (onlyFaults_oneMember hvalue g _).bind fun ⟨g, s⟩ => ih g s
        · exact malformed

/-- While members are read none is known to be missing. -/
theorem onlyFaults_allMembers (s : List Symbol) :
    OnlyFaults DataFault.OfForm (allMembers reader members .passed s) := by
  rw [allMembers]
  split
  · exact truncated
  · split
    · exact ok _
    · exact (onlyFaults_oneMember hvalue _ _).bind fun ⟨g, s⟩ =>
        onlyFaults_moreMembers hvalue _ g s

end

end Json

end MoveRating
