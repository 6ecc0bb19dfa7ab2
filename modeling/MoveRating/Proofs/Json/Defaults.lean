import MoveRating.Json.Record
import MoveRating.Proofs.Outcome

/-!
# Defaults of members

A member that must be there and one that has a default are read alike where they are there.

* `Json.allMembers_congr` : what is gathered from a record does not hang on defaults.
* `Json.DiffersBy` : two outcomes are the same, or one is a fault and the other ends with a default.
* `Json.record_defaulted` : in this way a record without a default differs from one with it; the
  fault is that the member is missing.
* `Json.read_row_eq_ok_iff` : a type that is a row is read by way of the items of its row.
-/

namespace MoveRating.Json

/-! ### Members that are there -/

section

variable {τ ν : Type} {reader : MemberReader τ ν} {members members' : List (String × τ)}
  {others : Others}

variable (reader members members') in
/-- Both lists have members of the same names, and these are read alike. -/
def AlikeIn : Prop :=
  ∀ name, (members.lookup name).map reader.value = (members'.lookup name).map reader.value

theorem namedMember_congr (h : AlikeIn reader members members') :
    namedMember reader members others = namedMember reader members' others := by
  funext name g s
  have hname := h name
  rw [namedMember, namedMember]
  cases hm : members.lookup name with
  | none =>
    rw [hm] at hname
    rw [Option.map_eq_none_iff.1 hname.symm]
  | some m =>
    rw [hm] at hname
    obtain ⟨m', hm', hvalue⟩ := Option.map_eq_some_iff.1 hname.symm
    simp only [hm', hvalue]

theorem oneMember_congr (h : AlikeIn reader members members') :
    oneMember reader members others = oneMember reader members' others := by
  funext g s
  rw [oneMember, oneMember, namedMember_congr h]

theorem moreMembers_congr (h : AlikeIn reader members members') (fuel : Nat) :
    moreMembers reader members others fuel = moreMembers reader members' others fuel := by
  induction fuel with
  | zero => rfl
  | succ fuel ih =>
    funext g s
    rw [moreMembers, moreMembers, oneMember_congr h, ih]

theorem allMembers_congr (h : AlikeIn reader members members') :
    allMembers reader members others = allMembers reader members' others := by
  funext s
  rw [allMembers, allMembers, oneMember_congr h]
  simp only [moreMembers_congr h]

end

/-! ### Members that are missing -/

section

variable {fields : List (String × Field)} {name : String} {kind : Kind} (default : Scalar)

/-- A default makes no difference to the value of a member. -/
theorem alikeIn_defaulted :
    AlikeIn fieldReader (fields ++ [(name, .required kind)])
      (fields ++ [(name, .defaulted kind default)]) := by
  intro name'
  rw [List.lookup_append, List.lookup_append]
  cases fields.lookup name' with
  | some f => rfl
  | none =>
    rw [Option.none_or, Option.none_or, List.lookup_cons, List.lookup_cons]
    split
    · rfl
    · rfl

/-- The values of all members but the last, and then that of the last. -/
theorem arrange_append {τ ν : Type} {whenMissing? : τ → Option ν} {members : List (String × τ)}
    {m : τ} {read : List (String × ν)} :
    arrange whenMissing? (members ++ [(name, m)]) read =
      arrange whenMissing? members read >>= fun vs =>
        match (read.lookup name).or (whenMissing? m) with
        | some v => .ok (vs ++ [v])
        | none => .error (.missing name) := by
  rw [arrange, List.mapM_append, arrange]
  congr 1
  funext vs
  rw [List.mapM_cons, List.mapM_nil]
  cases hvalue : (read.lookup name).or (whenMissing? m) with
  | none =>
    simp only [hvalue]
    rfl
  | some v =>
    simp only [hvalue]
    rfl

/-- Without its default a member that is missing is a fault. -/
theorem arrange_defaulted (fields : List (String × Field)) (read : List (String × Item)) :
    arrange Field.whenMissing? (fields ++ [(name, .required kind)]) read =
        arrange Field.whenMissing? (fields ++ [(name, .defaulted kind default)]) read ∨
      arrange Field.whenMissing? (fields ++ [(name, .required kind)]) read =
          .error (.missing name) ∧
        ∃ items, arrange Field.whenMissing? (fields ++ [(name, .defaulted kind default)]) read =
          .ok (items ++ [some default]) := by
  rw [arrange_append, arrange_append]
  cases arrange Field.whenMissing? fields read with
  | error fault => exact .inl rfl
  | ok items =>
    cases hlookup : read.lookup name with
    | some i =>
      left
      simp only [Option.some_or]
    | none => exact .inr ⟨rfl, items, rfl⟩

/-- Without its default a last element that is missing is a fault. -/
theorem elements_defaulted (fs : List Field) (first : Bool) (s : List Symbol) :
    elements fieldReader first (fs ++ [.required kind]) s =
        elements fieldReader first (fs ++ [.defaulted kind default]) s ∨
      elements fieldReader first (fs ++ [.required kind]) s = .error (.data .tooFew) ∧
        ∃ items rest, elements fieldReader first (fs ++ [.defaulted kind default]) s =
          .ok (items ++ [some default], rest) := by
  induction fs generalizing first s with
  | nil =>
    have halike : oneElement fieldReader first (.required kind) s =
        oneElement fieldReader first (.defaulted kind default) s := rfl
    rw [List.nil_append, List.nil_append, elements, elements, halike]
    rcases oneElement fieldReader first (.defaulted kind default) s with problem | ⟨i | i, rest⟩
    · exact .inl rfl
    · exact .inr ⟨rfl, [], rest, rfl⟩
    · exact .inl rfl
  | cons f fs ih =>
    rw [List.cons_append, List.cons_append, elements, elements]
    rcases oneElement fieldReader first f s with problem | ⟨i?, rest⟩
    · exact .inl rfl
    · simp only [bind, Except.bind]
      cases hvalue : i?.or (fieldReader.whenEnded? f) with
      | none => exact .inl rfl
      | some i =>
        simp only
        rcases ih (first && i?.isNone) rest with heq | ⟨hfew, items, rest', hitems⟩
        · rw [heq]
          exact .inl rfl
        · rw [hfew, hitems]
          exact .inr ⟨rfl, i :: items, rest', rfl⟩

/-- Both outcomes are the same, or the one is the fault and the other ends with the default. -/
def DiffersBy (fault : DataFault) (default : Scalar)
    (x y : Except Problem (List Item × List Symbol)) : Prop :=
  x = y ∨ x = .error (.data fault) ∧
    ∀ items rest, y = .ok (items, rest) → items.getLast? = some (some default)

theorem recordBody_defaulted (fields : List (String × Field)) (s : List Symbol) :
    DiffersBy (.missing name) default
      (recordBody fieldReader (fields ++ [(name, .required kind)]) s)
      (recordBody fieldReader (fields ++ [(name, .defaulted kind default)]) s) := by
  rw [recordBody, recordBody, allMembers_congr (alikeIn_defaulted default)]
  cases allMembers fieldReader (fields ++ [(name, Field.defaulted kind default)]) .passed s with
  | error problem => exact .inl rfl
  | ok p =>
    obtain ⟨g, rest⟩ := p
    have harrange := @arrange_defaulted name kind default fields g.read
    simp only [bind, Except.bind, fieldReader]
    rcases harrange with heq | ⟨hmissing, items, hitems⟩
    · rw [heq]
      exact .inl rfl
    · rw [hmissing, hitems]
      refine .inr ⟨rfl, ?_⟩
      rintro items' rest' ⟨⟩
      exact List.getLast?_concat

theorem listBody_defaulted (fields : List (String × Field)) (s : List Symbol) :
    DiffersBy .tooFew default
      (listBody fieldReader (fields ++ [(name, .required kind)]) s)
      (listBody fieldReader (fields ++ [(name, .defaulted kind default)]) s) := by
  rw [listBody, listBody, List.map_append, List.map_append]
  rcases elements_defaulted default (fields.map Prod.snd) true s with
    heq | ⟨hfew, items, rest, hitems⟩
  · exact .inl (congrArg (· >>= _) heq)
  · refine .inr ⟨congrArg (· >>= _) hfew, ?_⟩
    intro items' rest' h
    obtain ⟨⟨vs, s'⟩, hvs, h⟩ := bind_eq_ok_iff.1 h
    obtain ⟨rfl, rfl⟩ := Prod.mk.inj (Except.ok.inj (hitems.symm.trans hvs))
    -- only the closing bracket is still to come
    simp only at h
    split at h
    · cases h
    · split at h
      · cases h
        exact List.getLast?_concat
      · cases h

/-- Without its default a record differs only if the member is missing. -/
theorem record_defaulted (fields : List (String × Field)) (s : List Symbol) :
    ∃ fault, (fault = .missing name ∨ fault = .tooFew) ∧
      DiffersBy fault default (record fieldReader (fields ++ [(name, .required kind)]) s)
        (record fieldReader (fields ++ [(name, .defaulted kind default)]) s) := by
  rw [record, record]
  cases skipGaps s with
  | nil => exact ⟨_, .inl rfl, .inl rfl⟩
  | cons a rest =>
    simp only
    by_cases hbrace : a = some '\x7b'
    · rw [if_pos hbrace, if_pos hbrace]
      exact ⟨_, .inl rfl, recordBody_defaulted default fields rest⟩
    · rw [if_neg hbrace, if_neg hbrace]
      by_cases hbracket : a = some '['
      · rw [if_pos hbracket, if_pos hbracket]
        exact ⟨_, .inr rfl, listBody_defaulted default fields rest⟩
      · rw [if_neg hbracket, if_neg hbracket]
        exact ⟨_, .inl rfl, .inl rfl⟩

end

/-! ### Types that are rows -/

section

variable {α : Type} [Wire α] {fields : List (String × Field)} {s rest : List Symbol}

theorem read_row_eq_ok_iff (hshape : Wire.shape α = .row ⟨fields, []⟩) {a : α} :
    read s = .ok (a, rest) ↔ ∃ items,
      record fieldReader fields s = .ok (items, rest) ∧ Wire.ofValue? (.row items) = some a := by
  rw [read, hshape, bind_eq_ok_iff]
  constructor
  · rintro ⟨⟨v, s'⟩, hv, hfound⟩
    obtain ⟨⟨items, s''⟩, hitems, heq⟩ := map_eq_ok_iff.1 hv
    cases heq
    cases ha : (Wire.ofValue? (.row items) : Option α) with
    | none =>
      simp only [ha, found] at hfound
      cases hfound
    | some a' =>
      simp only [ha, found] at hfound
      cases hfound
      exact ⟨items, hitems, ha⟩
  · rintro ⟨items, hitems, ha⟩
    refine ⟨(.row items, rest), map_eq_ok_iff.2 ⟨(items, rest), hitems, rfl⟩, ?_⟩
    simp only [ha, found]

theorem read_row_of_error (hshape : Wire.shape α = .row ⟨fields, []⟩) {problem : Problem}
    (h : record fieldReader fields s = .error problem) :
    read s = (.error problem : Except Problem (α × List Symbol)) := by
  rw [read, hshape, bind_eq_error_iff]
  exact .inl (map_eq_error_iff.2 h)

end

end MoveRating.Json
