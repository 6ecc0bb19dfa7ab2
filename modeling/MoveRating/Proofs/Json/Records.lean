import Mathlib.Data.List.Forall2
import Mathlib.Data.List.Nodup
import Mathlib.Data.List.ReduceOption
import MoveRating.Proofs.Json.Scalars

/-!
# Records read back

What is written between braces is read back by the readers of records, in whatever order the
members stand.

* `Json.Gathers` : members that are read one after another, and what is gathered from them.
* `Json.allMembers_of_gathers` : such members are read up to the closing brace.
* `Json.Piece` : what is written for a member, if anything is, is read back as its value.
* `Json.reads_record` : a record is read back if each of its pieces is.
-/

namespace MoveRating.Json

/-! ### Entries -/

section

variable {ν : Type} {entries : List (String × ν)} {name : String}

theorem lookup_eq_none_of_not_mem (h : name ∉ entries.map Prod.fst) :
    entries.lookup name = none := by
  rw [List.lookup_eq_none_iff]
  rintro ⟨name', v⟩ hmem
  rw [bne_iff_ne]
  rintro rfl
  exact h (List.mem_map_of_mem hmem)

/-- Under different names every entry is found. -/
theorem lookup_eq_some_of_mem (hnames : (entries.map Prod.fst).Nodup) {v : ν}
    (hmem : (name, v) ∈ entries) : entries.lookup name = some v := by
  induction entries with
  | nil => cases hmem
  | cons e entries ih =>
    obtain ⟨hnew, hnames⟩ := List.nodup_cons.1 hnames
    rcases List.mem_cons.1 hmem with rfl | hmem
    · exact List.lookup_cons_self
    · have hne : (name == e.1) = false := by
        rw [beq_eq_false_iff_ne]
        rintro rfl
        exact hnew (List.mem_map.2 ⟨_, hmem, rfl⟩)
      rw [List.lookup_cons, hne]
      exact ih hnames hmem

/-- Entries under different names are found in whatever order they stand. -/
theorem lookup_reverse (hnames : (entries.map Prod.fst).Nodup) :
    entries.reverse.lookup name = entries.lookup name := by
  have hreverse : (entries.reverse.map Prod.fst).Nodup := by
    rwa [List.map_reverse, List.nodup_reverse]
  by_cases hname : name ∈ entries.map Prod.fst
  · obtain ⟨⟨_, v⟩, hmem, rfl⟩ := List.mem_map.1 hname
    rw [lookup_eq_some_of_mem hnames hmem,
      lookup_eq_some_of_mem hreverse (List.mem_reverse.2 hmem)]
  · rw [lookup_eq_none_of_not_mem hname, lookup_eq_none_of_not_mem]
    rwa [List.map_reverse, List.mem_reverse]

end

/-! ### Members one after another -/

section

variable {τ ν : Type} {reader : MemberReader τ ν} {members : List (String × τ)} {others : Others}

/-- A member as it is written: its name and the characters of its value. -/
structure WrittenMember where
  /-- The name. -/
  name : String
  /-- The value as characters. -/
  body : List Char

/-- A written member as characters. -/
def WrittenMember.chars (w : WrittenMember) : List Char := memberChars w.name w.body

variable (reader members others) in
/-- Reading the written members one after another leads from one gathering to another. -/
inductive Gathers : Gathered ν → List WrittenMember → Gathered ν → Prop
  | nil (g : Gathered ν) : Gathers g [] g
  | cons {g g' g'' : Gathered ν} {w : WrittenMember} {ws : List WrittenMember}
      (hhead : Reads (namedMember reader members others w.name g) (':' :: w.body) g')
      (htail : Gathers g' ws g'') : Gathers g (w :: ws) g''

/-- A member is read with its name. -/
theorem oneMember_chars {g g' : Gathered ν} {w : WrittenMember}
    (h : Reads (namedMember reader members others w.name g) (':' :: w.body) g') :
    Reads (oneMember reader members others g) w.chars g' := by
  intro rest hrest
  have hread := h rest hrest
  rw [WrittenMember.chars, memberChars, List.map_append, List.append_assoc, quote_eq, oneMember,
    skipGaps_cons (by decide)]
  simp only [if_true, textBody_escaped, bind, Except.bind]
  exact hread

/-- Written members after the first one, each after a comma. -/
def furtherChars (ws : List WrittenMember) : List Char := ws.flatMap fun w => ',' :: w.chars

/-- After the body of a member comes a comma or the closing brace. -/
theorem endsNumber_furtherChars (ws : List WrittenMember) (rest : List Symbol) :
    EndsNumber ((furtherChars ws).map some ++ some '\x7d' :: rest) := by
  cases ws with
  | nil => exact endsNumber_cons _ (by decide)
  | cons w ws => exact endsNumber_cons _ (by decide)

theorem length_le_furtherChars (ws : List WrittenMember) :
    ws.length ≤ (furtherChars ws).length := by
  induction ws with
  | nil => exact Nat.le_refl _
  | cons w ws ih =>
    rw [furtherChars, List.flatMap_cons, ← furtherChars, List.length_append, List.length_cons,
      List.length_cons]
    omega

theorem moreMembers_of_gathers {g g' : Gathered ν} {ws : List WrittenMember} {fuel : Nat}
    (h : Gathers reader members others g ws g') (hfuel : ws.length < fuel) (rest : List Symbol) :
    moreMembers reader members others fuel g
      ((furtherChars ws).map some ++ some '\x7d' :: rest) = .ok (g', rest) := by
  induction h generalizing fuel with
  | nil g =>
    obtain ⟨k, rfl⟩ := Nat.exists_eq_succ_of_ne_zero (Nat.ne_zero_of_lt hfuel)
    rw [furtherChars, List.flatMap_nil, List.map_nil, List.nil_append, moreMembers,
      skipGaps_cons (by decide)]
    rfl
  | @cons g g' g'' w ws hhead htail ih =>
    obtain ⟨k, rfl⟩ := Nat.exists_eq_succ_of_ne_zero (Nat.ne_zero_of_lt hfuel)
    have hone := oneMember_chars hhead _ (endsNumber_furtherChars ws rest)
    rw [furtherChars, List.flatMap_cons, ← furtherChars, List.map_append, List.append_assoc,
      List.map_cons, List.cons_append, moreMembers, skipGaps_cons (by decide)]
    simp only [if_true, hone, bind, Except.bind]
    exact ih (Nat.lt_of_succ_lt_succ hfuel)

theorem braces_cons (w : WrittenMember) (ws : List WrittenMember) :
    braces ((w :: ws).map WrittenMember.chars) =
      '\x7b' :: (w.chars ++ (furtherChars ws ++ ['\x7d'])) := by
  have hintercalate : ∀ (w : WrittenMember) (ws : List WrittenMember),
      [','].intercalate ((w :: ws).map WrittenMember.chars) = w.chars ++ furtherChars ws := by
    intro w ws
    induction ws generalizing w with
    | nil => simp [furtherChars]
    | cons w' ws ih =>
      rw [List.map_cons, List.map_cons, List.intercalate_cons_cons, ← List.map_cons, ih w']
      simp [furtherChars]
  rw [braces, hintercalate, List.cons_append, List.append_assoc]

/-- All members up to the closing brace. -/
theorem allMembers_of_gathers {g : Gathered ν} {ws : List WrittenMember}
    (h : Gathers reader members others .empty ws g) (rest : List Symbol) :
    ∃ s, (braces (ws.map WrittenMember.chars)).map some ++ rest = some '\x7b' :: s ∧
      allMembers reader members others s = .ok (g, rest) := by
  cases h with
  | nil => exact ⟨some '\x7d' :: rest, rfl, rfl⟩
  | @cons _ g' _ w ws hhead htail =>
    refine ⟨_, by rw [braces_cons, List.map_cons, List.cons_append], ?_⟩
    have hone := oneMember_chars hhead _ (endsNumber_furtherChars ws rest)
    have hquote : ∃ cs, w.chars = '"' :: cs := ⟨_, List.cons_append ..⟩
    obtain ⟨cs, hcs⟩ := hquote
    simp only [List.map_append, List.append_assoc, List.map_cons, List.map_nil, List.cons_append,
      List.nil_append]
    rw [hcs, List.map_cons, List.cons_append] at hone ⊢
    rw [allMembers, skipGaps_cons (by decide)]
    simp only [hone, bind, Except.bind]
    rw [if_neg (by decide)]
    refine moreMembers_of_gathers htail ?_ rest
    have := length_le_furtherChars ws
    rw [List.length_append, List.length_map]
    omega

theorem reads_record_of_gathers {g : Gathered ν} {ws : List WrittenMember} {vs : List ν}
    (hgathers : Gathers reader members .passed .empty ws g)
    (harrange : arrange reader.whenMissing? members g.read = .ok vs) :
    Reads (record reader members) (braces (ws.map WrittenMember.chars)) vs := by
  intro rest _
  obtain ⟨s, hs, hall⟩ := allMembers_of_gathers hgathers rest
  rw [hs, record, skipGaps_cons (by decide)]
  simp only [if_true, recordBody, hall, harrange, bind, Except.bind]

/-! ### Members in any order -/

/-- A written member with the value that is read for it. -/
structure Part (ν : Type) extends WrittenMember where
  /-- The value. -/
  value : ν

/-- The name and the value of a part. -/
def Part.entry (p : Part ν) : String × ν := (p.name, p.value)

/-- A member that has not come yet is added. -/
theorem reads_namedMember {g : Gathered ν} {p : Part ν} {m : τ}
    (hm : members.lookup p.name = some m) (hbody : Reads (reader.value m) p.body p.value)
    (hnew : p.name ∉ g.read.map Prod.fst) :
    Reads (namedMember reader members others p.name g) (':' :: p.body)
      (g.add p.name p.value) := by
  intro rest hrest
  have hhas : g.has p.name = false := by
    rw [Gathered.has, lookup_eq_none_of_not_mem hnew]
    rfl
  rw [List.map_cons, List.cons_append, namedMember, hm]
  simp only [hhas, colon, skipGaps_cons (show isGap (some ':') = false by decide),
    hbody rest hrest, bind, Except.bind, Bool.false_eq_true, if_false]

/-- If each part of a new name adds its entry, parts of different names add theirs one after
another. -/
theorem gathers_parts (state : List (String × ν) → Gathered ν) {ps : List (Part ν)}
    (hstep : ∀ p ∈ ps, ∀ entries, p.name ∉ entries.map Prod.fst →
      Reads (namedMember reader members others p.name (state entries)) (':' :: p.body)
        (state (p.entry :: entries)))
    (entries : List (String × ν)) (hnames : (ps.map (·.name) ++ entries.map Prod.fst).Nodup) :
    Gathers reader members others (state entries) (ps.map (·.toWrittenMember))
      (state ((ps.map Part.entry).reverse ++ entries)) := by
  induction ps generalizing entries with
  | nil => exact .nil _
  | cons p ps ih =>
    obtain ⟨hp, hps⟩ := List.forall_mem_cons.1 hstep
    rw [List.map_cons, List.cons_append] at hnames
    have hnew : p.name ∉ entries.map Prod.fst := fun h =>
      (List.nodup_cons.1 hnames).1 (List.mem_append_right _ h)
    have htail := ih hps (p.entry :: entries) (List.nodup_middle.2 hnames)
    rw [List.map_cons, List.map_cons, List.reverse_cons, List.append_assoc, List.singleton_append]
    exact .cons (hp entries hnew) htail

variable {υ : Type} {values : List υ} {result : υ → ν}

/-- The values of the members come in their order. -/
theorem arrange_eq_ok {whenMissing? : τ → Option ν} {read : List (String × ν)}
    (hlength : members.length = values.length)
    (h : ∀ z ∈ members.zip values,
      (read.lookup z.1.1).or (whenMissing? z.1.2) = some (result z.2)) :
    arrange whenMissing? members read = .ok (values.map result) := by
  induction members generalizing values with
  | nil =>
    obtain rfl := List.length_eq_zero_iff.1 hlength.symm
    rfl
  | cons m members ih =>
    obtain ⟨v, values, rfl⟩ := List.exists_of_length_succ values hlength.symm
    obtain ⟨hhead, htail⟩ := List.forall_mem_cons.1 h
    have := ih (Nat.succ.inj hlength) htail
    rw [arrange] at this ⊢
    simp only [List.mapM_cons, hhead, this, bind, Except.bind, pure, Except.pure, List.map_cons]

theorem nodup_zip (hnames : (members.map Prod.fst).Nodup)
    (hlength : members.length = values.length) :
    ((members.zip values).map fun z => z.1.1).Nodup := by
  have hmap : (members.zip values).map (fun z => z.1.1) =
      ((members.zip values).map Prod.fst).map Prod.fst := by
    rw [List.map_map]
    rfl
  rwa [hmap, List.map_fst_zip (Nat.le_of_eq hlength)]

variable (reader result) in
/-- What is written for a member with a value, if anything is: it bears the name of the member and
is read back as the result. If nothing is written, the result is what a missing member stands
for. -/
structure Piece (z : (String × τ) × υ) (q : Option (Part ν)) : Prop where
  /-- It has the name of the member. -/
  name_eq : ∀ p ∈ q, p.name = z.1.1
  /-- It is read back. -/
  reads : ∀ p ∈ q, Reads (reader.value z.1.2) p.body p.value
  /-- The result is that of the part or of a missing member. -/
  value_eq : (q.map Part.value).or (reader.whenMissing? z.1.2) = some (result z.2)

section Pieces

variable {zs : List ((String × τ) × υ)} {qs : List (Option (Part ν))}

theorem names_sublist (h : List.Forall₂ (Piece reader result) zs qs) :
    (qs.reduceOption.map (·.name)).Sublist (zs.map fun z => z.1.1) := by
  induction h with
  | nil => exact .slnil
  | @cons z q zs qs hpiece _ ih =>
    cases q with
    | none => exact ih.cons z.1.1
    | some p =>
      rw [List.reduceOption_cons_of_some, List.map_cons, List.map_cons, hpiece.name_eq p rfl]
      exact ih.cons_cons z.1.1

theorem exists_member (h : List.Forall₂ (Piece reader result) zs qs) {p : Part ν}
    (hp : p ∈ qs.reduceOption) :
    ∃ z ∈ zs, p.name = z.1.1 ∧ Reads (reader.value z.1.2) p.body p.value := by
  induction h with
  | nil => cases hp
  | @cons z q zs qs hpiece _ ih =>
    cases q with
    | none =>
      obtain ⟨z', hz', hp'⟩ := ih hp
      exact ⟨z', List.mem_cons_of_mem z hz', hp'⟩
    | some p₀ =>
      rw [List.reduceOption_cons_of_some] at hp
      rcases List.mem_cons.1 hp with rfl | hp
      · exact ⟨z, List.mem_cons_self, hpiece.name_eq p rfl, hpiece.reads p rfl⟩
      · obtain ⟨z', hz', hp'⟩ := ih hp
        exact ⟨z', List.mem_cons_of_mem z hz', hp'⟩

/-- Each member gets its result from what is written. -/
theorem lookup_pieces (h : List.Forall₂ (Piece reader result) zs qs)
    (hnames : (zs.map fun z => z.1.1).Nodup) :
    ∀ z ∈ zs, ((qs.reduceOption.map Part.entry).lookup z.1.1).or (reader.whenMissing? z.1.2) =
      some (result z.2) := by
  induction h with
  | nil => exact nofun
  | @cons z q zs qs hpiece htail ih =>
    obtain ⟨hnew, hnames⟩ := List.nodup_cons.1 hnames
    intro z' hz'
    rcases List.mem_cons.1 hz' with rfl | hz'
    · rw [← hpiece.value_eq]
      congr 1
      cases q with
      | none =>
        refine lookup_eq_none_of_not_mem fun hmem => hnew ((names_sublist htail).subset ?_)
        rwa [List.map_map] at hmem
      | some p =>
        rw [List.reduceOption_cons_of_some, List.map_cons, Part.entry, hpiece.name_eq p rfl]
        exact List.lookup_cons_self
    · have hother := ih hnames z' hz'
      cases q with
      | none => exact hother
      | some p =>
        have hne : (z'.1.1 == p.name) = false := by
          rw [beq_eq_false_iff_ne, hpiece.name_eq p rfl]
          intro heq
          exact hnew (List.mem_map.2 ⟨z', hz', heq⟩)
        rw [List.reduceOption_cons_of_some, List.map_cons, List.lookup_cons, Part.entry, hne]
        exact hother

/-- The results come in the order of the members, whatever the order of the pieces. -/
theorem arrange_pieces (hnames : (members.map Prod.fst).Nodup)
    (hlength : members.length = values.length) (hperm : zs.Perm (members.zip values))
    (h : List.Forall₂ (Piece reader result) zs qs) :
    (qs.reduceOption.map (·.name)).Nodup ∧
      arrange reader.whenMissing? members (qs.reduceOption.map Part.entry).reverse =
        .ok (values.map result) := by
  have hzs : (zs.map fun z => z.1.1).Nodup :=
    (hperm.map _).nodup_iff.2 (nodup_zip hnames hlength)
  have hnodup : (qs.reduceOption.map (·.name)).Nodup := (names_sublist h).nodup hzs
  refine ⟨hnodup, arrange_eq_ok hlength ?_⟩
  intro z hz
  rw [lookup_reverse (by rwa [List.map_map])]
  exact lookup_pieces h hzs z (hperm.mem_iff.2 hz)

/-- A record is read back if each of its pieces is, in whatever order they stand. -/
theorem reads_record (hnames : (members.map Prod.fst).Nodup)
    (hlength : members.length = values.length) (hperm : zs.Perm (members.zip values))
    (h : List.Forall₂ (Piece reader result) zs qs) :
    Reads (record reader members) (braces (qs.reduceOption.map (·.chars)))
      (values.map result) := by
  obtain ⟨hnodup, harrange⟩ := arrange_pieces hnames hlength hperm h
  have hstep : ∀ p ∈ qs.reduceOption, ∀ entries, p.name ∉ entries.map Prod.fst →
      Reads (namedMember reader members .passed p.name ⟨entries, []⟩) (':' :: p.body)
        ⟨p.entry :: entries, []⟩ := by
    intro p hp entries hnew
    obtain ⟨z, hz, hname, hreads⟩ := exists_member h hp
    refine reads_namedMember ?_ hreads hnew
    rw [hname]
    exact lookup_eq_some_of_mem hnames (List.of_mem_zip (hperm.mem_iff.1 hz)).1
  have hgathers := gathers_parts (fun entries => ⟨entries, []⟩) hstep [] (by simpa using hnodup)
  rw [List.append_nil] at hgathers
  have hread := reads_record_of_gathers hgathers harrange
  rwa [List.map_map] at hread

end Pieces

end

end MoveRating.Json
