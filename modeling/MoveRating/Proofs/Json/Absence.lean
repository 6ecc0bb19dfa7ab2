import MoveRating.Proofs.Json.Faults

/-!
# Records that are not complete

All that is there of a record may be fine, and still something is not there. What that is called
hangs on the form of the record.

* `Json.LacksMember` : a member of an object is not there, and `Json.EndsEarly` : a list ends before
  an element.
* `Json.elements_eq_tooFew_iff` : elements are too few just if the list ends before one that must be
  there.
* `Json.onlyFaults_record` : whatever else is at fault with a record lies in the form of what is
  there.
* `Json.exists_record_eq_missing_iff`, `Json.record_eq_tooFew_iff` : an object that lacks a member is
  always at fault for that, and a list that ends early for its length. For the rows of a type see
  `Json.exists_read_row_eq_missing_iff` and `Json.read_row_eq_tooFew_iff`.
-/

namespace MoveRating

namespace Json

variable {α : Type}

open OnlyFaults (ok truncated malformed data_iff)

/-! ### Elements -/

section

variable {τ ν : Type} {reader : MemberReader τ ν} {m : τ} {ms : List τ} {first : Bool}
  {s : List Symbol}

theorem onlyFaults_oneElement (hm : ∀ s, OnlyFaults DataFault.OfForm (reader.value m s))
    (first : Bool) (s : List Symbol) :
    OnlyFaults DataFault.OfForm (oneElement reader first m s) := by
  rw [oneElement]
  dsimp only
  split
  · exact truncated
  · split
    · exact ok _
    · split
      · exact (hm _).map
      · split
        · split
          · exact truncated
          · split
            · exact malformed
            · exact (hm _).map
        · exact malformed

/-- There is no element just where the list ends. -/
theorem exists_oneElement_eq_none_iff :
    (∃ rest, oneElement reader first m s = .ok (none, rest)) ↔
      (skipGaps s).head? = some (some ']') := by
  have hvalue : ∀ s rest,
      ((reader.value m s).map fun p => (some p.1, p.2)) ≠ .ok (none, rest) := by
    intro s rest h
    obtain ⟨p, -, hp⟩ := map_eq_ok_iff.1 h
    cases hp
  rw [oneElement]
  dsimp only
  split
  · next hs => simp [hs]
  · next a rest hs =>
    rw [hs, List.head?_cons, Option.some_inj]
    split
    · next ha => exact iff_of_true ⟨_, rfl⟩ ha
    · next ha =>
      refine iff_of_false ?_ ha
      rintro ⟨rest', h⟩
      split at h
      · exact hvalue _ _ h
      · split at h
        · split at h
          · cases h
          · split at h
            · cases h
            · exact hvalue _ _ h
        · cases h

theorem onlyFaults_elements
    (hms : ∀ m ∈ ms, ∀ s, OnlyFaults DataFault.OfForm (reader.value m s)) (first : Bool)
    (s : List Symbol) :
    OnlyFaults (fun fault => fault.OfForm ∨ fault = .tooFew) (elements reader first ms s) := by
  induction ms generalizing first s with
  | nil => exact ok _
  | cons m ms ih =>
    obtain ⟨hm, hms⟩ := List.forall_mem_cons.1 hms
    refine ((onlyFaults_oneElement hm first s).mono fun _ => .inl).bind fun ⟨v?, s⟩ => ?_
    dsimp only
    split
    · exact data_iff.2 (.inr rfl)
    · exact (ih hms _ s).bind fun ⟨vs, s⟩ => ok _

/-- Elements are too few if the list ends at the first of them and that must be there, or if those
after it are too few. -/
theorem elements_cons_eq_tooFew_iff
    (hm : ∀ s, OnlyFaults DataFault.OfForm (reader.value m s)) :
    elements reader first (m :: ms) s = .error (.data .tooFew) ↔
      ((skipGaps s).head? = some (some ']') ∧ reader.whenEnded? m = none) ∨
        ∃ v? v s', oneElement reader first m s = .ok (v?, s') ∧
          v?.or (reader.whenEnded? m) = some v ∧
          elements reader (first && v?.isNone) ms s' = .error (.data .tooFew) := by
  have hnone : (∃ rest, oneElement reader first m s = .ok (none, rest)) ↔
      (skipGaps s).head? = some (some ']') := exists_oneElement_eq_none_iff
  rw [elements, bind_eq_error_iff, ← hnone]
  constructor
  · rintro (h | ⟨⟨v?, s'⟩, hone, h⟩)
    · cases onlyFaults_oneElement hm first s _ h
    · dsimp only at h
      split at h
      · next hor =>
        obtain ⟨rfl, hended⟩ := Option.or_eq_none_iff.1 hor
        exact .inl ⟨⟨s', hone⟩, hended⟩
      · next v hv =>
        rcases bind_eq_error_iff.1 h with h | ⟨_, -, h⟩
        · exact .inr ⟨v?, v, s', hone, hv, h⟩
        · cases h
  · rintro (⟨⟨s', hone⟩, hended⟩ | ⟨v?, v, s', hone, hv, h⟩)
    · refine .inr ⟨_, hone, ?_⟩
      simp only [hended, Option.or_none]
    · refine .inr ⟨_, hone, ?_⟩
      simp only [hv]
      exact bind_eq_error_iff.2 (.inl h)

theorem elements_cons_eq_ok_iff {vs : List ν} {rest : List Symbol} :
    elements reader first (m :: ms) s = .ok (vs, rest) ↔
      ∃ v? v s' vs', oneElement reader first m s = .ok (v?, s') ∧
        v?.or (reader.whenEnded? m) = some v ∧
        elements reader (first && v?.isNone) ms s' = .ok (vs', rest) ∧ vs = v :: vs' := by
  rw [elements, bind_eq_ok_iff]
  constructor
  · rintro ⟨⟨v?, s'⟩, hone, h⟩
    dsimp only at h
    split at h
    · cases h
    · next v hv =>
      obtain ⟨⟨vs', rest'⟩, hrest, h⟩ := bind_eq_ok_iff.1 h
      cases h
      exact ⟨v?, v, s', vs', hone, hv, hrest, rfl⟩
  · rintro ⟨v?, v, s', vs', hone, hv, hrest, rfl⟩
    refine ⟨_, hone, ?_⟩
    simp only [hv]
    exact bind_eq_ok_iff.2 ⟨_, hrest, rfl⟩

/-- Elements are too few just if the list ends before one that must be there. -/
theorem elements_eq_tooFew_iff
    (hms : ∀ m ∈ ms, ∀ s, OnlyFaults DataFault.OfForm (reader.value m s)) :
    elements reader first ms s = .error (.data .tooFew) ↔
      ∃ before m after vs rest, ms = before ++ m :: after ∧
        elements reader first before s = .ok (vs, rest) ∧
        (skipGaps rest).head? = some (some ']') ∧ reader.whenEnded? m = none := by
  induction ms generalizing first s with
  | nil => simp [elements]
  | cons m ms ih =>
    obtain ⟨hm, hms⟩ := List.forall_mem_cons.1 hms
    rw [elements_cons_eq_tooFew_iff hm]
    -- either the list ends at the first element, or that is one of those before the missing one
    constructor
    · rintro (⟨hend, hended⟩ | ⟨v?, v, s', hone, hv, h⟩)
      · exact ⟨[], m, ms, [], s, rfl, rfl, hend, hended⟩
      · obtain ⟨before, m', after, vs, rest, rfl, hbefore, hend, hended⟩ := (ih hms).1 h
        exact ⟨m :: before, m', after, v :: vs, rest, rfl,
          elements_cons_eq_ok_iff.2 ⟨v?, v, s', vs, hone, hv, hbefore, rfl⟩, hend, hended⟩
    · rintro ⟨_ | ⟨m₀, before⟩, m', after, vs, rest, heq, hbefore, hend, hended⟩
      · cases heq
        cases hbefore
        exact .inl ⟨hend, hended⟩
      · cases heq
        obtain ⟨v?, v, s', vs', hone, hv, hbefore, -⟩ := elements_cons_eq_ok_iff.1 hbefore
        exact .inr ⟨v?, v, s', hone, hv,
          (ih hms).2 ⟨before, m', after, vs', rest, rfl, hbefore, hend, hended⟩⟩

end

/-! ### Missing members -/

section

variable {τ ν : Type} {reader : MemberReader τ ν} {members : List (String × τ)}
  {whenMissing? : τ → Option ν} {read : List (String × ν)}

/-- Only a member that was not read, and that must be there, is missing. -/
theorem arrange_eq_error {fault : DataFault}
    (h : arrange whenMissing? members read = .error fault) :
    ∃ e ∈ members, fault = .missing e.1 ∧ read.lookup e.1 = none ∧ whenMissing? e.2 = none := by
  induction members with
  | nil => cases h
  | cons e members ih =>
    rw [arrange, List.mapM_cons, bind_eq_error_iff] at h
    rcases h with h | ⟨v, -, h⟩
    · cases hlookup : read.lookup e.1 with
      | some v => simp [hlookup] at h
      | none =>
        cases hmissing : whenMissing? e.2 with
        | some v => simp [hlookup, hmissing] at h
        | none =>
          simp only [hlookup, hmissing, Option.none_or] at h
          cases h
          exact ⟨e, List.mem_cons_self, rfl, hlookup, hmissing⟩
    · rcases bind_eq_error_iff.1 h with h | ⟨vs, -, h⟩
      · obtain ⟨e', he', hfault⟩ := ih h
        exact ⟨e', List.mem_cons_of_mem _ he', hfault⟩
      · cases h

/-- Where all members could be arranged, none is missing. -/
theorem isSome_of_arrange {vs : List ν} (h : arrange whenMissing? members read = .ok vs)
    {e : String × τ} (he : e ∈ members) :
    ((read.lookup e.1).or (whenMissing? e.2)).isSome = true := by
  induction members generalizing vs with
  | nil => cases he
  | cons e' members ih =>
    rw [arrange, List.mapM_cons, bind_eq_ok_iff] at h
    obtain ⟨v, hv, h⟩ := h
    obtain ⟨vs', hvs, -⟩ := bind_eq_ok_iff.1 h
    rcases List.mem_cons.1 he with rfl | he
    · cases hvalue : (read.lookup e.1).or (whenMissing? e.2) with
      | none =>
        simp only [hvalue] at hv
        cases hv
      | some v => rfl
    · exact ih hvs he

variable (reader members) in
/-- The members of an object can all be read, none of those asked for twice, but one is not among
them that must be there. Whatever follows the object is left unread. Only an object lacks members; a
record in the form of a list may end early (`EndsEarly`). -/
def LacksMember (s : List Symbol) (name : String) : Prop :=
  ∃ s' g rest, skipGaps s = some '\x7b' :: s' ∧
    allMembers reader members .passed s' = .ok (g, rest) ∧ g.has name = false ∧
      ∃ m, (name, m) ∈ members ∧ reader.whenMissing? m = none

variable (reader members) in
/-- The elements of a list can all be read, but the list ends before an element that must be
there. -/
def EndsEarly (s : List Symbol) (name : String) : Prop :=
  ∃ s' before m after vs rest, skipGaps s = some '[' :: s' ∧
    members = before ++ (name, m) :: after ∧
    elements reader true (before.map Prod.snd) s' = .ok (vs, rest) ∧
    (skipGaps rest).head? = some (some ']') ∧ reader.whenEnded? m = none

theorem recordBody_of_lacks {s rest : List Symbol} {g : Gathered ν}
    (hall : allMembers reader members .passed s = .ok (g, rest)) {name : String} {m : τ}
    (hhas : g.has name = false) (hm : (name, m) ∈ members)
    (hmissing : reader.whenMissing? m = none) :
    ∃ name, recordBody reader members s = .error (.data (.missing name)) := by
  have hlookup : g.read.lookup name = none := by
    rwa [Gathered.has, Option.isSome_eq_false_iff, Option.isNone_iff_eq_none] at hhas
  simp only [recordBody, hall, bind, Except.bind]
  cases harrange : arrange reader.whenMissing? members g.read with
  | ok vs =>
    have := isSome_of_arrange harrange hm
    rw [hlookup, hmissing] at this
    cases this
  | error fault =>
    obtain ⟨e, -, rfl, -⟩ := arrange_eq_error harrange
    exact ⟨e.1, rfl⟩

theorem listBody_eq_tooFew_iff {s : List Symbol} :
    listBody reader members s = .error (.data .tooFew) ↔
      elements reader true (members.map Prod.snd) s = .error (.data .tooFew) := by
  rw [listBody, bind_eq_error_iff, or_iff_left]
  rintro ⟨⟨vs, s⟩, -, h⟩
  dsimp only at h
  split at h
  · cases h
  · split at h
    · cases h
    · cases h

section

variable (hvalue : ∀ e ∈ members, ∀ s, OnlyFaults DataFault.OfForm (reader.value e.2 s))

include hvalue

/-- What is at fault with an object: the form of what is there, or a member that is missing. -/
theorem onlyFaults_recordBody {s s' : List Symbol} (hs : skipGaps s = some '\x7b' :: s') :
    OnlyFaults (fun fault => fault.OfForm ∨ ∃ name, fault = .missing name ∧
      LacksMember reader members s name) (recordBody reader members s') := by
  cases hall : allMembers reader members .passed s' with
  | error problem =>
    rw [recordBody, hall]
    rintro fault ⟨⟩
    exact .inl (onlyFaults_allMembers hvalue s' fault hall)
  | ok p =>
    obtain ⟨g, rest⟩ := p
    rw [recordBody, hall]
    cases harrange : arrange reader.whenMissing? members g.read with
    | ok vs =>
      simp only [bind, Except.bind, harrange]
      exact ok _
    | error fault =>
      simp only [bind, Except.bind, harrange]
      obtain ⟨e, he, rfl, hlookup, hmissing⟩ := arrange_eq_error harrange
      refine data_iff.2 (.inr ⟨e.1, rfl, s', g, rest, hs, hall, ?_, e.2, he, hmissing⟩)
      rw [Gathered.has, hlookup]
      rfl

/-- What is at fault with a list: the form of what is there, or that it has too few elements. -/
theorem onlyFaults_listBody (s : List Symbol) :
    OnlyFaults (fun fault => fault.OfForm ∨ fault = .tooFew) (listBody reader members s) := by
  refine (onlyFaults_elements (List.forall_mem_map.2 hvalue) true s).bind fun ⟨vs, s⟩ => ?_
  dsimp only
  split
  · exact truncated
  · split
    · exact ok _
    · exact malformed

/-- A list has too few elements just if it ends before one that must be there. -/
theorem listBody_eq_tooFew_iff_endsEarly {s s' : List Symbol} (hs : skipGaps s = some '[' :: s') :
    listBody reader members s' = .error (.data .tooFew) ↔
      ∃ name, EndsEarly reader members s name := by
  rw [listBody_eq_tooFew_iff, elements_eq_tooFew_iff (List.forall_mem_map.2 hvalue)]
  constructor
  · rintro ⟨before, m, after, vs, rest, hmembers, hbefore, hend, hended⟩
    obtain ⟨before, tail, rfl, rfl, htail⟩ := List.map_eq_append_iff.1 hmembers
    obtain ⟨⟨name, m⟩, after, rfl, rfl, rfl⟩ := List.map_eq_cons_iff.1 htail
    exact ⟨name, s', before, m, after, vs, rest, hs, rfl, hbefore, hend, hended⟩
  · rintro ⟨name, s'', before, m, after, vs, rest, hs', rfl, hbefore, hend, hended⟩
    obtain rfl : s' = s'' := (List.cons.inj (hs.symm.trans hs')).2
    exact ⟨before.map Prod.snd, m, after.map Prod.snd, vs, rest, by simp, hbefore, hend, hended⟩

/-- What is at fault with a record that cannot be read: the form of what is there, a list that ends
early, or a member that is missing. -/
theorem onlyFaults_record (s : List Symbol) :
    OnlyFaults (fun fault => fault.OfForm ∨
      (fault = .tooFew ∧ ∃ name, EndsEarly reader members s name) ∨
      ∃ name, fault = .missing name ∧ LacksMember reader members s name)
      (record reader members s) := by
  rw [record]
  cases hs : skipGaps s with
  | nil => exact truncated
  | cons a rest =>
    dsimp only
    split
    · next hbrace =>
      subst hbrace
      exact (onlyFaults_recordBody hvalue hs).mono fun _ => Or.imp_right .inr
    · split
      · next hbracket =>
        subst hbracket
        intro fault hfault
        refine (onlyFaults_listBody hvalue rest fault hfault).imp_right ?_
        rintro rfl
        exact .inl ⟨rfl, (listBody_eq_tooFew_iff_endsEarly hvalue hs).1 hfault⟩
      · exact (onlyFaults_mismatch _).mono fun _ => .inl

/-- A member is missing just if all others can be read and the member is not among them. -/
theorem exists_record_eq_missing_iff {s : List Symbol} :
    (∃ name, record reader members s = .error (.data (.missing name))) ↔
      ∃ name, LacksMember reader members s name := by
  constructor
  · rintro ⟨name, h⟩
    rcases onlyFaults_record hvalue s _ h with hform | ⟨⟨⟩, -⟩ | ⟨name', -, hlacks⟩
    · cases hform
    · exact ⟨name', hlacks⟩
  · rintro ⟨name, s', g, rest, hs, hall, hhas, m, hm, hmissing⟩
    rw [record, hs]
    exact recordBody_of_lacks hall hhas hm hmissing

/-- There are too few elements just if a list ends early. -/
theorem record_eq_tooFew_iff {s : List Symbol} :
    record reader members s = .error (.data .tooFew) ↔
      ∃ name, EndsEarly reader members s name := by
  constructor
  · intro h
    rcases onlyFaults_record hvalue s _ h with hform | ⟨-, hends⟩ | ⟨_, ⟨⟩, -⟩
    · cases hform
    · exact hends
  · rintro ⟨name, hends⟩
    obtain ⟨s', -, -, -, -, -, hs, -⟩ := id hends
    rw [record, hs]
    exact (listBody_eq_tooFew_iff_endsEarly hvalue hs).2 ⟨name, hends⟩

end

end

/-! ### Rows -/

section

variable [Wire α] {fields : List (String × Field)} {s : List Symbol}
  (hshape : Wire.shape α = .row ⟨fields, []⟩) (hplain : ∀ e ∈ fields, e.2.kind.Plain)

include hshape

/-- A row is misread for the fault of its record, unless its items are not those of a value. -/
theorem read_row_eq_error_iff {fault : DataFault} (hfault : fault ≠ .unexpected) :
    (read s : Except Problem (α × List Symbol)) = .error (.data fault) ↔
      record fieldReader fields s = .error (.data fault) := by
  have hfound : ∀ (v? : Option α) (s : List Symbol),
      found .unexpected s v? ≠ .error (.data fault) := by
    rintro (_ | v) s h
    · cases h
      exact hfault rfl
    · cases h
  rw [read, hshape, bind_eq_error_iff, or_iff_left fun ⟨_, _, h⟩ => hfound _ _ h]
  exact map_eq_error_iff

include hplain

/-- What is at fault with a row that cannot be read. -/
theorem onlyFaults_read_row (s : List Symbol) :
    OnlyFaults (fun fault => fault.OfForm ∨
      (fault = .tooFew ∧ ∃ name, EndsEarly fieldReader fields s name) ∨
      ∃ name, fault = .missing name ∧ LacksMember fieldReader fields s name)
      (read s : Except Problem (α × List Symbol)) := by
  rw [read, hshape]
  refine OnlyFaults.bind (OnlyFaults.map ?_) fun ⟨v, s⟩ => onlyFaults_found (.inl trivial) s _
  exact onlyFaults_record (fun e he => onlyFaults_item (hplain e he)) s

/-- A member of a row is missing just if all others can be read and the member is not among them. -/
theorem exists_read_row_eq_missing_iff :
    (∃ name, (read s : Except Problem (α × List Symbol)) = .error (.data (.missing name))) ↔
      ∃ name, LacksMember fieldReader fields s name := by
  rw [← exists_record_eq_missing_iff fun e he => onlyFaults_item (hplain e he)]
  exact exists_congr fun name => read_row_eq_error_iff hshape nofun

/-- A row has too few elements just if it is a list that ends early. -/
theorem read_row_eq_tooFew_iff :
    (read s : Except Problem (α × List Symbol)) = .error (.data .tooFew) ↔
      ∃ name, EndsEarly fieldReader fields s name := by
  rw [← record_eq_tooFew_iff fun e he => onlyFaults_item (hplain e he)]
  exact read_row_eq_error_iff hshape nofun

end

end Json

end MoveRating
