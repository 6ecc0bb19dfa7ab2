import MoveRating.Proofs.Json.Records

/-!
# Texts of a value

The members of an object may be written in any order, and so a value has many texts.

* `Json.IsText` : the characters are those of a value, but for the order of the members of its
  objects. What is written for the value is one of its texts (`Json.isText_valueChars`).
* `Json.setAside` : what is gathered from a row with dates when its members come in any order.
* `Json.reads_isText` : every text of a value is read back as the value, but for the sign of a
  zero.
* `Json.Faithful` : a type whose values have its shape and are made up again of their parts. Every
  text of such a value is read back (`Json.Faithful.parse?_of_isTextOf`).
-/

namespace MoveRating

/-! ### Values of a shape -/

/-- The items are those of fields that have different names. -/
def ItemsOf (fields : List (String × Field)) (items : List Item) : Prop :=
  (fields.map Prod.fst).Nodup ∧ List.Forall₂ (fun f i => Item.IsOf i f.2) fields items

/-- The cell without the signs of zeros. -/
def Cell.plain : Cell → Cell
  | .item i => .item (Item.plain i)
  | .row items => .row (items.map Item.plain)

/-- The cell may stand in the place of the member. -/
def Cell.IsOf : Cell → Member → Prop
  | .item i, .field f => Item.IsOf i f
  | .row items, .row fields => ItemsOf fields items
  | _, _ => False

/-- The value without the signs of zeros. -/
def Value.plain : Value → Value
  | .scalar v => .scalar v.plain
  | .row items => .row (items.map Item.plain)
  | .nested cells => .nested (cells.map Cell.plain)

/-- The value has the shape. -/
def Value.IsOf : Value → Shape → Prop
  | .scalar v, .scalar kind => v.IsOf kind
  | .row items, .row r => ItemsOf r.allFields items
  | .nested cells, .nested members =>
    (members.map Prod.fst).Nodup ∧ List.Forall₂ (fun m c => c.IsOf m.2) members cells
  | _, _ => False

@[simp] theorem Scalar.isOf_word32 (n : UInt32) : (word32 n).IsOf .word32 := trivial

@[simp] theorem Scalar.isOf_word64 (w : Int64) : (word64 w).IsOf .word64 := trivial

@[simp] theorem Scalar.isOf_text (t : String) : (text t).IsOf .text := trivial

@[simp] theorem Scalar.isOf_date (d : Date) : (date d).IsOf .date := trivial

@[simp] theorem Scalar.isOf_decimal (d : Decimal) : (decimal d).IsOf .decimal := trivial

@[simp] theorem Scalar.isOf_uuid (u : Uuid) : (uuid u).IsOf .uuid := trivial

/-- A member of a list is known by its name. -/
theorem Scalar.isOf_name {α : Type} {name : α → String} {choices : List α} {a : α}
    (h : a ∈ choices) : (Scalar.name (name a)).IsOf (.name (choices.map name)) :=
  List.mem_map_of_mem h

@[simp] theorem Item.isOf_some {v : Scalar} {f : Field} :
    Item.IsOf (some v) f ↔ v.IsOf f.kind := Iff.rfl

@[simp] theorem Item.isOf_none {kind : Kind} {asNull : Bool} :
    Item.IsOf none (.optional kind asNull) := rfl

@[simp] theorem Field.kind_required (k : Kind) : (required k).kind = k := rfl

@[simp] theorem Field.kind_optional (k : Kind) (b : Bool) : (optional k b).kind = k := rfl

@[simp] theorem Field.kind_defaulted (k : Kind) (v : Scalar) : (defaulted k v).kind = k := rfl

theorem RowShape.allFields_of_dates_eq_nil {r : RowShape} (h : r.dates = []) :
    r.allFields = r.fields := by
  rw [allFields, dateFields, h, List.map_nil, List.append_nil]

theorem ItemsOf.isOf_of_mem {fields : List (String × Field)} {items : List Item}
    (h : ItemsOf fields items) {z : (String × Field) × Item} (hz : z ∈ fields.zip items) :
    Item.IsOf z.2 z.1.2 :=
  (List.forall₂_iff_zip.1 h.2).2 hz

/-- The items of all members make up a row. -/
theorem ItemsOf.isOf_row {r : RowShape} {items : List Item} (h : ItemsOf r.allFields items) :
    (Value.row items).IsOf (.row r) := h

namespace Json

/-! ### Members in any order -/

/-- The characters are a row whose members stand in some order. -/
def RowText (fields : List (String × Field)) (items : List Item) (cs : List Char) : Prop :=
  ∃ zs : List ((String × Field) × Item), zs.Perm (fields.zip items) ∧
    cs = braces (zs.filterMap fieldChars?)

/-- What may be written for a member of a record, if anything is. -/
inductive CellText : (String × Member) × Cell → Option (List Char) → Prop
  | item (name : String) (f : Field) (i : Item) :
    CellText ((name, .field f), .item i) (fieldChars? ((name, f), i))
  | row {name : String} {fields : List (String × Field)} {items : List Item} {cs : List Char}
    (h : RowText fields items cs) :
    CellText ((name, .row fields), .row items) (some (memberChars name cs))

/-- The characters are those of a value, but for the order of the members of its objects. -/
inductive IsText : Shape → Value → List Char → Prop
  | scalar (kind : Kind) (v : Scalar) : IsText (.scalar kind) (.scalar v) (scalarChars v)
  | row {r : RowShape} {items : List Item} {cs : List Char}
    (h : RowText r.allFields items cs) : IsText (.row r) (.row items) cs
  | nested {members : List (String × Member)} {cells : List Cell}
    {zs : List ((String × Member) × Cell)} {written : List (Option (List Char))}
    (hperm : zs.Perm (members.zip cells)) (hwritten : List.Forall₂ CellText zs written) :
    IsText (.nested members) (.nested cells) (braces written.reduceOption)

/-- The text is one of the value. -/
def IsTextOf {α : Type} [Wire α] (a : α) (t : String) : Prop :=
  IsText (Wire.shape α) (Wire.toValue a) t.toList

theorem rowText_rowChars (fields : List (String × Field)) (items : List Item) :
    RowText fields items (rowChars fields items) :=
  ⟨fields.zip items, .refl _, rfl⟩

theorem cellText_cellChars? {z : (String × Member) × Cell} (hz : z.2.IsOf z.1.2) :
    CellText z (cellChars? z) := by
  rcases z with ⟨⟨name, f | fields⟩, i | items⟩
  · exact .item name f i
  · cases hz
  · cases hz
  · exact .row (rowText_rowChars fields items)

/-- What is written for a value is one of its texts. -/
theorem isText_valueChars {shape : Shape} {v : Value} (hv : v.IsOf shape) :
    IsText shape v (valueChars shape v) := by
  cases shape with
  | scalar kind =>
    cases v with
    | scalar v => exact .scalar kind v
    | row items => cases hv
    | nested cells => cases hv
  | row r =>
    cases v with
    | scalar v => cases hv
    | row items => exact .row (rowText_rowChars r.allFields items)
    | nested cells => cases hv
  | nested members =>
    cases v with
    | scalar v => cases hv
    | row items => cases hv
    | nested cells =>
      have hchars : valueChars (.nested members) (.nested cells) =
          braces ((members.zip cells).map cellChars?).reduceOption := by
        rw [valueChars, List.reduceOption, List.filterMap_map]
        rfl
      rw [hchars]
      refine .nested (.refl _) ?_
      rw [List.forall₂_map_right_iff, List.forall₂_same]
      intro z hz
      exact cellText_cellChars? ((List.forall₂_iff_zip.1 hv.2).2 hz)

/-! ### Rows -/

/-- The part that an item has in its row, unless it is left out. -/
def itemPart? : (String × Field) × Item → Option (Part Item)
  | ((_, .optional _ false), none) => none
  | ((name, _), i) => some ⟨⟨name, itemChars i⟩, Item.plain i⟩

theorem fieldChars?_eq (z : (String × Field) × Item) :
    fieldChars? z = (itemPart? z).map (·.chars) := by
  rcases z with ⟨⟨name, (kind | ⟨kind, asNull⟩ | ⟨kind, value⟩)⟩, i⟩
  · rfl
  · cases asNull <;> cases i <;> rfl
  · rfl

theorem eq_of_itemPart? {z : (String × Field) × Item} {p : Part Item}
    (h : itemPart? z = some p) :
    p.name = z.1.1 ∧ p.body = itemChars z.2 ∧ p.value = Item.plain z.2 := by
  rcases z with ⟨⟨name, (kind | ⟨kind, asNull⟩ | ⟨kind, value⟩)⟩, i⟩
  · cases h
    exact ⟨rfl, rfl, rfl⟩
  · cases asNull <;> cases i <;> cases h <;> exact ⟨rfl, rfl, rfl⟩
  · cases h
    exact ⟨rfl, rfl, rfl⟩

/-- An item that is left out is the one that a missing member stands for. -/
theorem value_itemPart? (z : (String × Field) × Item) :
    ((itemPart? z).map Part.value).or z.1.2.whenMissing? = some (Item.plain z.2) := by
  rcases z with ⟨⟨name, (kind | ⟨kind, asNull⟩ | ⟨kind, value⟩)⟩, i⟩
  · rfl
  · cases asNull <;> cases i <;> rfl
  · rfl

theorem piece_itemPart? {z : (String × Field) × Item} (hz : Item.IsOf z.2 z.1.2) :
    Piece fieldReader Item.plain z (itemPart? z) where
  name_eq _ hp := (eq_of_itemPart? hp).1
  reads p hp := by
    obtain ⟨-, hbody, hvalue⟩ := eq_of_itemPart? hp
    rw [hbody, hvalue]
    exact reads_item hz
  value_eq := value_itemPart? z

/-- A row is written in pieces. -/
theorem RowText.exists_pieces {fields : List (String × Field)} {items : List Item}
    {cs : List Char} (h : RowText fields items cs) (hitems : ItemsOf fields items) :
    ∃ zs : List ((String × Field) × Item), zs.Perm (fields.zip items) ∧
      List.Forall₂ (Piece fieldReader Item.plain) zs (zs.map itemPart?) ∧
      cs = braces ((zs.map itemPart?).reduceOption.map (·.chars)) := by
  obtain ⟨zs, hperm, rfl⟩ := h
  refine ⟨zs, hperm, ?_, ?_⟩
  · rw [List.forall₂_map_right_iff, List.forall₂_same]
    intro z hz
    exact piece_itemPart? (hitems.isOf_of_mem (hperm.mem_iff.1 hz))
  · rw [← List.reduceOption_map, List.map_map, List.reduceOption, List.filterMap_map]
    congr 2
    exact funext fieldChars?_eq

theorem reads_rowText {fields : List (String × Field)} {items : List Item} {cs : List Char}
    (h : RowText fields items cs) (hitems : ItemsOf fields items) :
    Reads (record fieldReader fields) cs (items.map Item.plain) := by
  obtain ⟨zs, hperm, hpieces, rfl⟩ := h.exists_pieces hitems
  exact reads_record hitems.1 hitems.2.length_eq hperm hpieces

/-! ### Rows with dates -/

section Dated

variable {r : RowShape} {entries : List (String × Item)}

/-- A date as it is kept aside. -/
def asideOf : Item → Aside
  | some (.date d) => .text d.text
  | _ => .other

theorem asideOf_date (d : Date) : asideOf (some (.date d)) = .text d.text := rfl

variable (r) in
/-- What is gathered from entries, the latest in front: dates of the row are kept aside. -/
def setAside (entries : List (String × Item)) : Gathered Item :=
  ⟨entries.filter fun e => e.1 ∉ r.dates,
    (entries.filter fun e => e.1 ∈ r.dates).map fun e => (e.1, asideOf e.2)⟩

variable (r) in
/-- The part belongs to the row, as one of its fields or as one of its dates. -/
inductive PartOf (p : Part Item) : Prop
  | field {f : Field} (hname : p.name ∉ r.dates)
    (hfield : r.fields.lookup p.name = some f) (hbody : Reads (item f) p.body p.value)
  | date {d : Date} (hname : p.name ∈ r.dates) (hfield : r.fields.lookup p.name = none)
    (hbody : p.body = quote d.text) (hvalue : p.value = some (.date d))

theorem PartOf.exists_date {p : Part Item} (h : PartOf r p) (hname : p.name ∈ r.dates) :
    ∃ d, p.value = some (.date d) := by
  cases h with
  | field hfield => exact absurd hname hfield
  | @date d _ _ _ hvalue => exact ⟨d, hvalue⟩

theorem reads_aside (t : String) : Reads aside (quote t) (.text t) := by
  intro rest _
  have htext := text_quote t rest
  rw [quote_eq] at htext ⊢
  rw [aside]
  simp only [skipGaps_cons (show isGap (some '"') = false by decide), List.head?_cons, if_true,
    htext, Except.map]

/-- A part that has not come yet is added, or kept aside. -/
theorem reads_partOf {p : Part Item} (hp : PartOf r p) (hnew : p.name ∉ entries.map Prod.fst) :
    Reads (namedMember fieldReader r.fields (.kept r.dates) p.name (setAside r entries))
      (':' :: p.body) (setAside r (p.entry :: entries)) := by
  cases hp with
  | field hname hfield hbody =>
    have hadd : setAside r (p.entry :: entries) = (setAside r entries).add p.name p.value := by
      simp [setAside, Gathered.add, Part.entry, hname]
    rw [hadd]
    refine reads_namedMember hfield hbody ?_
    exact fun h => hnew ((List.filter_sublist.map Prod.fst).subset h)
  | @date d hname hfield hbody hvalue =>
    intro rest hrest
    have hadd : setAside r (p.entry :: entries) =
        (setAside r entries).addAside p.name (.text d.text) := by
      simp [setAside, Gathered.addAside, Part.entry, hname, hvalue, asideOf_date]
    have haside := reads_aside d.text rest hrest
    rw [hadd, List.map_cons, List.cons_append, namedMember, hfield, hbody]
    simp only [colon, skipGaps_cons (show isGap (some ':') = false by decide), Others.value,
      haside, List.contains_iff_mem.2 hname, bind, Except.bind, if_true]

/-- Dates that were kept aside are found again. -/
theorem gatherDates_asideOf (entries found : List (String × Item))
    (hnames : (entries.map Prod.fst ++ found.map Prod.fst).Nodup)
    (hdates : ∀ e ∈ entries, ∃ d, e.2 = some (.date d)) :
    gatherDates found (entries.map fun e => (e.1, asideOf e.2)) =
      .ok (entries.reverse ++ found) := by
  induction entries generalizing found with
  | nil => rfl
  | cons e entries ih =>
    obtain ⟨⟨d, hd⟩, hlater⟩ := List.forall_mem_cons.1 hdates
    obtain ⟨name, v⟩ := e
    obtain rfl : v = some (.date d) := hd
    rw [List.map_cons, List.cons_append] at hnames
    have hnew : name ∉ found.map Prod.fst := fun h =>
      (List.nodup_cons.1 hnames).1 (List.mem_append_right _ h)
    have htail := ih ((name, some (.date d)) :: found) (List.nodup_middle.2 hnames) hlater
    simp only [List.map_cons, asideOf_date, gatherDates, lookup_eq_none_of_not_mem hnew,
      Option.isSome_none, Bool.false_eq_true, if_false, Date.parse?_text]
    rw [htail, List.reverse_cons, List.append_assoc, List.singleton_append]

theorem lookup_filter_name (keep : String → Bool) {name : String} (hkeep : keep name = true) :
    (entries.filter fun e => keep e.1).lookup name = entries.lookup name := by
  induction entries with
  | nil => rfl
  | cons e entries ih =>
    rw [List.filter_cons, List.lookup_cons]
    by_cases hname : name = e.1
    · subst hname
      rw [if_pos hkeep, List.lookup_cons]
      simp
    · have hne : (name == e.1) = false := by simpa using hname
      rw [hne]
      split
      · rw [List.lookup_cons, hne]
        exact ih
      · exact ih

theorem arrange_congr {τ ν : Type} {whenMissing? : τ → Option ν} {members : List (String × τ)}
    {read read' : List (String × ν)}
    (h : ∀ m ∈ members, read.lookup m.1 = read'.lookup m.1) :
    arrange whenMissing? members read = arrange whenMissing? members read' := by
  induction members with
  | nil => rfl
  | cons m members ih =>
    obtain ⟨hhead, htail⟩ := List.forall_mem_cons.1 h
    have := ih htail
    rw [arrange, arrange] at this ⊢
    simp only [List.mapM_cons, hhead, this]

/-- Setting the dates aside makes no difference to the items of a row. -/
theorem arrangeDated_setAside (hfields : ∀ f ∈ r.fields, f.1 ∉ r.dates)
    (hnames : (entries.map Prod.fst).Nodup)
    (hdates : ∀ e ∈ entries, e.1 ∈ r.dates → ∃ d, e.2 = some (.date d)) :
    arrangeDated r (setAside r entries) =
      arrange Field.whenMissing? r.allFields entries := by
  -- `gatherDates` takes the dates as they came and turns their order around once more
  have hfound : gatherDates [] (setAside r entries).aside.reverse =
      .ok (entries.filter fun e => e.1 ∈ r.dates) := by
    have hgather := gatherDates_asideOf
      (entries.filter fun e => e.1 ∈ r.dates).reverse [] ?_ ?_
    · rw [List.reverse_reverse, List.append_nil] at hgather
      rw [← hgather, setAside, List.map_reverse]
    · rw [List.map_nil, List.append_nil, List.map_reverse, List.nodup_reverse]
      exact (List.filter_sublist.map Prod.fst).nodup hnames
    · intro e he
      obtain ⟨he, hname⟩ := List.mem_filter.1 (List.mem_reverse.1 he)
      exact hdates e he (of_decide_eq_true hname)
  have hread : arrange Field.whenMissing? r.fields (setAside r entries).read =
      arrange Field.whenMissing? r.fields entries := by
    refine arrange_congr ?_
    intro f hf
    exact lookup_filter_name (fun name => name ∉ r.dates) (decide_eq_true (hfields f hf))
  have hdated : arrange Field.whenMissing? r.dateFields
        (entries.filter fun e => e.1 ∈ r.dates) =
      arrange Field.whenMissing? r.dateFields entries := by
    refine arrange_congr ?_
    intro f hf
    obtain ⟨name, hname, rfl⟩ := List.mem_map.1 hf
    exact lookup_filter_name (fun name => name ∈ r.dates) (decide_eq_true hname)
  -- what is left is one list of members that was cut in two
  have happend : arrange Field.whenMissing? (r.fields ++ r.dateFields) entries =
      (do
        let items ← arrange Field.whenMissing? r.fields entries
        return items ++ (← arrange Field.whenMissing? r.dateFields entries)) :=
    List.mapM_append
  rw [arrangeDated, hfound, hread, RowShape.allFields, happend, ← hdated]
  rfl

theorem reads_datedRow_of_gathers {g : Gathered Item} {ws : List WrittenMember}
    {items : List Item} (hgathers : Gathers fieldReader r.fields (.kept r.dates) .empty ws g)
    (harrange : arrangeDated r g = .ok items) :
    Reads (datedRow r) (braces (ws.map WrittenMember.chars)) items := by
  intro rest _
  obtain ⟨s, hs, hall⟩ := allMembers_of_gathers hgathers rest
  rw [hs, datedRow, skipGaps_cons (by decide)]
  simp only [if_true, hall, harrange, bind, Except.bind]

theorem exists_date {i : Item} (h : Item.IsOf i (.required .date)) :
    ∃ d, i = some (.date d) := by
  cases i with
  | none => cases h
  | some v =>
    cases v with
    | date d => exact ⟨d, rfl⟩
    | _ => cases h

variable {items : List Item} (hitems : ItemsOf r.allFields items)
include hitems

/-- The names of fields and dates are different. -/
theorem nodup_names : (r.fields.map Prod.fst ++ r.dates).Nodup := by
  have hnames := hitems.1
  have hdates : r.dateFields.map Prod.fst = r.dates := by
    rw [RowShape.dateFields, List.map_map]
    exact List.map_id _
  rwa [RowShape.allFields, List.map_append, hdates] at hnames

theorem not_mem_dates : ∀ f ∈ r.fields, f.1 ∉ r.dates := by
  obtain ⟨-, -, hdisjoint⟩ := List.nodup_append.1 (nodup_names hitems)
  intro f hf hdate
  exact hdisjoint f.1 (List.mem_map_of_mem hf) f.1 hdate rfl

/-- What is written in a row belongs to it. -/
theorem partOf_itemPart? {z : (String × Field) × Item} (hz : z ∈ r.allFields.zip items)
    {p : Part Item} (hp : itemPart? z = some p) : PartOf r p := by
  have hfields := (List.nodup_append.1 (nodup_names hitems)).1
  obtain ⟨hname, hbody, hvalue⟩ := eq_of_itemPart? hp
  have hitem := hitems.isOf_of_mem hz
  obtain ⟨⟨name, f⟩, i⟩ := z
  rcases List.mem_append.1 (List.of_mem_zip hz).1 with hmem | hmem
  · refine .field (f := f) ?_ ?_ ?_
    · rw [hname]
      exact not_mem_dates hitems _ hmem
    · rw [hname]
      exact lookup_eq_some_of_mem hfields hmem
    · rw [hbody, hvalue]
      exact reads_item hitem
  · -- the member is a date of the row, and so its item is a date
    obtain ⟨_, hdate, hf⟩ := List.mem_map.1 hmem
    cases hf
    obtain ⟨d, rfl⟩ := exists_date hitem
    refine .date (d := d) ?_ ?_ hbody hvalue
    · rwa [hname]
    · rw [hname]
      refine lookup_eq_none_of_not_mem fun hfield => ?_
      obtain ⟨f, hf, rfl⟩ := List.mem_map.1 hfield
      exact not_mem_dates hitems f hf hdate

/-- A row with dates is read back, in whatever order its members stand. -/
theorem reads_datedText {cs : List Char} (h : RowText r.allFields items cs) :
    Reads (datedRow r) cs (items.map Item.plain) := by
  obtain ⟨zs, hperm, hpieces, rfl⟩ := h.exists_pieces hitems
  obtain ⟨hnodup, harrange⟩ := arrange_pieces hitems.1 hitems.2.length_eq hperm hpieces
  generalize hps : (zs.map itemPart?).reduceOption = ps at hnodup harrange ⊢
  have hparts : ∀ p ∈ ps, PartOf r p := by
    subst hps
    intro p hp
    obtain ⟨z, hz, hzp⟩ := List.mem_map.1 (List.reduceOption_mem_iff.1 hp)
    exact partOf_itemPart? hitems (hperm.mem_iff.1 hz) hzp
  have hgathers := gathers_parts (setAside r) (fun p hp _ => reads_partOf (hparts p hp)) []
    (by simpa using hnodup)
  rw [List.append_nil] at hgathers
  have hdates : ∀ e ∈ (ps.map Part.entry).reverse, e.1 ∈ r.dates → ∃ d, e.2 = some (.date d) := by
    intro e he
    obtain ⟨p, hp, rfl⟩ := List.mem_map.1 (List.mem_reverse.1 he)
    exact (hparts p hp).exists_date
  have harranged := arrangeDated_setAside (not_mem_dates hitems)
    (by rwa [List.map_reverse, List.nodup_reverse, List.map_map]) hdates
  have hread := reads_datedRow_of_gathers hgathers (harranged.trans harrange)
  rwa [List.map_map] at hread

end Dated

/-! ### Values -/

/-- What is written for a member that may be a row is read back. -/
theorem exists_cellPiece {z : (String × Member) × Cell} {w : Option (List Char)}
    (hz : z.2.IsOf z.1.2) (h : CellText z w) :
    ∃ q, Piece memberReader Cell.plain z q ∧ w = q.map (·.chars) := by
  cases h with
  | item name f i =>
    have hpiece := piece_itemPart? (z := ((name, f), i)) hz
    refine ⟨(itemPart? ((name, f), i)).map fun p => ⟨p.toWrittenMember, .item p.value⟩,
      ⟨?_, ?_, ?_⟩, ?_⟩
    · intro p' hp'
      obtain ⟨p, hp, rfl⟩ := Option.map_eq_some_iff.1 hp'
      exact hpiece.name_eq p hp
    · intro p' hp'
      obtain ⟨p, hp, rfl⟩ := Option.map_eq_some_iff.1 hp'
      exact (hpiece.reads p hp).map Cell.item
    · have hvalue := congrArg (Option.map Cell.item) hpiece.value_eq
      rw [Option.map_or, Option.map_map] at hvalue
      rw [Option.map_map]
      exact hvalue
    · rw [fieldChars?_eq, Option.map_map]
      rfl
  | @row name fields items cs h =>
    refine ⟨some ⟨⟨name, cs⟩, .row (items.map Item.plain)⟩, ⟨?_, ?_, rfl⟩, rfl⟩
    · rintro p ⟨⟩
      rfl
    · rintro p ⟨⟩
      exact (reads_rowText h hz).map Cell.row

theorem exists_cellPieces {zs : List ((String × Member) × Cell)}
    {written : List (Option (List Char))} (hzs : ∀ z ∈ zs, z.2.IsOf z.1.2)
    (h : List.Forall₂ CellText zs written) :
    ∃ qs, List.Forall₂ (Piece memberReader Cell.plain) zs qs ∧
      written = qs.map (Option.map (·.chars)) := by
  induction h with
  | nil => exact ⟨[], .nil, rfl⟩
  | cons hhead _ ih =>
    obtain ⟨hz, hzs⟩ := List.forall_mem_cons.1 hzs
    obtain ⟨q, hq, rfl⟩ := exists_cellPiece hz hhead
    obtain ⟨qs, hqs, rfl⟩ := ih hzs
    exact ⟨q :: qs, .cons hq hqs, rfl⟩

/-- Every text of a value is read back as the value. -/
theorem reads_isText {shape : Shape} {v : Value} {cs : List Char} (h : IsText shape v cs)
    (hv : v.IsOf shape) : Reads (value shape) cs v.plain := by
  cases h with
  | scalar kind v => exact (reads_scalar hv).map Value.scalar
  | @row r items cs h =>
    have hrow : Reads (row r) cs (items.map Item.plain) := by
      rw [row]
      split
      · next hdates =>
        have hfields := RowShape.allFields_of_dates_eq_nil (List.isEmpty_iff.1 hdates)
        rw [hfields] at h
        exact reads_rowText h (hfields ▸ hv)
      · exact reads_datedText hv h
    exact hrow.map Value.row
  | @nested members cells zs written hperm hwritten =>
    obtain ⟨hnames, hcells⟩ := hv
    obtain ⟨hlength, hzip⟩ := List.forall₂_iff_zip.1 hcells
    obtain ⟨qs, hqs, rfl⟩ :=
      exists_cellPieces (fun z hz => hzip (hperm.mem_iff.1 hz)) hwritten
    rw [List.reduceOption_map]
    exact (reads_record hnames hlength hperm hqs).map Value.nested

/-! ### Whole texts -/

section

variable {α : Type} [Wire α]

/-- Each value has the shape of its type, and its parts make up the value again, as it is
without the signs of zeros. -/
structure Faithful (plain : α → α) : Prop where
  /-- A value has the shape. -/
  isOf : ∀ a : α, (Wire.toValue a).IsOf (Wire.shape α)
  /-- The parts of a value make it up again. -/
  ofValue?_plain : ∀ a : α, Wire.ofValue? (Wire.toValue a).plain = some (plain a)

namespace Faithful

variable {plain : α → α} (h : Faithful plain)
include h

theorem isTextOf_write (a : α) : IsTextOf a (write a) := by
  rw [IsTextOf, write, String.toList_ofList]
  exact isText_valueChars (h.isOf a)

/-- Every text of a value is read as the value. -/
theorem parse?_of_isTextOf {a : α} {t : String} (ht : IsTextOf a t) :
    parse? α t = .ok (plain a) := by
  have hread := reads_isText ht (h.isOf a) [] endsNumber_nil
  rw [List.append_nil] at hread
  rw [parse?, symbolsOfText, read]
  simp only [hread, bind, Except.bind, h.ofValue?_plain, found]
  rfl

theorem parse?_write (a : α) : parse? α (write a) = .ok (plain a) :=
  h.parse?_of_isTextOf (h.isTextOf_write a)

end Faithful

end

end Json

end MoveRating
