import MoveRating.Proofs.Outcome
import MoveRating.Tariff.Directory

/-!
# Reading the files of a tariff

A directory is read file by file, and the first file that fails decides.

* `FirstWithout`: the first of some things that lacks a property.
* `Directory.Reads` says what is read from one file, `Directory.Lacks` that a file is missing or not
  text, and `Directory.Holds` what the seven files hold together.
* `Directory.read_eq_ok_iff` and `Directory.read_eq_error_iff`: a directory is read as what its
  files hold, or fails as its first file that is not readable.
-/

namespace MoveRating

/-! ### First failures -/

section

variable {ε α β : Type}

/-- Why a computation fails, if it does. -/
def failure? : Except ε α → Option ε
  | .ok _ => none
  | .error e => some e

theorem failure?_eq_some_iff {x : Except ε α} {e : ε} : failure? x = some e ↔ x = .error e := by
  cases x with
  | error e' => simp [failure?]
  | ok a => simp [failure?]

theorem failure?_eq_none_iff {x : Except ε α} : failure? x = none ↔ ∃ a, x = .ok a := by
  cases x with
  | error e => simp [failure?]
  | ok a => simp [failure?]

/-- Steps that do not hang on each other fail as the first one that fails. -/
theorem failure?_bind {x : Except ε α} {f : α → Except ε β} {o : Option ε}
    (h : ∀ a, failure? (f a) = o) : failure? (x >>= f) = (failure? x).or o := by
  cases x with
  | error e => rfl
  | ok a => exact h a

/-- The first of some things that lacks a property. -/
def FirstWithout (P : α → Prop) (xs : List α) (x : α) : Prop :=
  ∃ before after, xs = before ++ x :: after ∧ ¬P x ∧ ∀ y ∈ before, P y

/-- A search that finds something just at what lacks a property ends at the first such thing. -/
theorem findSome?_eq_some_iff_firstWithout {f : α → Option β} {P : α → Prop}
    (hP : ∀ x, f x = none ↔ P x) {xs : List α} {b : β} :
    xs.findSome? f = some b ↔ ∃ x, FirstWithout P xs x ∧ f x = some b := by
  rw [List.findSome?_eq_some_iff]
  constructor
  · rintro ⟨before, x, after, rfl, hx, hbefore⟩
    have hnot : ¬P x := fun h => by simp [(hP x).2 h] at hx
    exact ⟨x, ⟨before, after, rfl, hnot, fun y hy => (hP y).1 (hbefore y hy)⟩, hx⟩
  · rintro ⟨x, ⟨before, after, rfl, -, hbefore⟩, hx⟩
    exact ⟨before, x, after, rfl, hx, fun y hy => (hP y).2 (hbefore y hy)⟩

theorem findSome?_cons_eq_or {f : α → Option β} (x : α) (xs : List α) :
    (x :: xs).findSome? f = (f x).or (xs.findSome? f) := by
  rw [List.findSome?_cons]
  cases f x with
  | none => rfl
  | some b => rfl

end

/-! ### Single files -/

/-- What a file holds. -/
abbrev TariffFile.Content : TariffFile → Type
  | .metadata => TariffMetadata
  | .table .zip3 => List Zip3
  | .table .distance => List ZipDistance
  | .table .serviceArea => List ServiceAreaRate
  | .table .baseLinehaul => List BaseLinehaulRate
  | .table .shorthaul => List ShorthaulRate
  | .table .discount => List RouteDiscountRate

/-- The reader of the text of a file. -/
def TariffFile.parse : (file : TariffFile) → String → Except Yaml.Problem file.Content
  | .metadata => Yaml.parseRow TariffMetadata TariffMetadata.row
  | .table .zip3 => Yaml.parseRows Zip3 "zip3s" Zip3.row
  | .table .distance => Yaml.parseRows ZipDistance "distances" ZipDistance.row
  | .table .serviceArea => Yaml.parseRows ServiceAreaRate "service_areas" ServiceAreaRate.row
  | .table .baseLinehaul => Yaml.parseRows BaseLinehaulRate "rates" BaseLinehaulRate.row
  | .table .shorthaul => Yaml.parseRows ShorthaulRate "rates" ShorthaulRate.row
  | .table .discount => Yaml.parseRows RouteDiscountRate "discounts" RouteDiscountRate.row

namespace Directory

variable {d : Directory} {file : TariffFile}

/-- The file is missing or is not text. -/
def Lacks (d : Directory) (file : TariffFile) : Prop :=
  ∀ bytes, d file = some bytes → String.fromUTF8? bytes = none

/-- The file is there and is read as this. -/
def Reads (d : Directory) (file : TariffFile) (content : file.Content) : Prop :=
  ∃ bytes text, d file = some bytes ∧ String.fromUTF8? bytes = some text ∧
    file.parse text = .ok content

/-- The file is there and can be read. -/
def Readable (d : Directory) (file : TariffFile) : Prop := ∃ content, d.Reads file content

theorem Reads.unique {content content' : file.Content} (h : d.Reads file content)
    (h' : d.Reads file content') : content = content' := by
  obtain ⟨bytes, text, hbytes, htext, hparse⟩ := h
  obtain ⟨bytes', text', hbytes', htext', hparse'⟩ := h'
  obtain rfl := Option.some.inj (hbytes.symm.trans hbytes')
  obtain rfl := Option.some.inj (htext.symm.trans htext')
  exact Except.ok.inj (hparse.symm.trans hparse')

/-- A file that is read hangs on its bytes alone. -/
theorem Reads.congr {d' : Directory} {content : file.Content} (h : d.Reads file content)
    (heq : d file = d' file) : d'.Reads file content := by
  obtain ⟨bytes, text, hbytes, htext, hparse⟩ := h
  exact ⟨bytes, text, heq.symm.trans hbytes, htext, hparse⟩

theorem not_lacks_of_reads {content : file.Content} (h : d.Reads file content) :
    ¬d.Lacks file := by
  obtain ⟨bytes, text, hbytes, htext, -⟩ := h
  intro hlacks
  rw [hlacks bytes hbytes] at htext
  cases htext

/-- A file is lacking, or has a text. -/
theorem contents_cases (d : Directory) (file : TariffFile) :
    (d.Lacks file ∧ d.contents file file.parse = .error (.notFound file)) ∨
      ∃ bytes text, d file = some bytes ∧ String.fromUTF8? bytes = some text ∧
        d.contents file file.parse = (file.parse text).mapError (.unreadable file) := by
  unfold Lacks contents Directory.text
  cases hbytes : d file with
  | none => exact .inl ⟨nofun, rfl⟩
  | some bytes =>
    cases htext : String.fromUTF8? bytes with
    | none =>
      refine .inl ⟨fun bytes' h => ?_, ?_⟩
      · rw [← Option.some.inj h, htext]
      · rw [Option.bind_some, htext]
        rfl
    | some text =>
      refine .inr ⟨bytes, text, rfl, htext, ?_⟩
      rw [Option.bind_some, htext]
      dsimp only [Bind.bind, Except.bind]
      cases file.parse text with
      | error problem => rfl
      | ok content => rfl

theorem contents_eq_ok_iff {content : file.Content} :
    d.contents file file.parse = .ok content ↔ d.Reads file content := by
  rcases contents_cases d file with ⟨hlacks, herr⟩ | ⟨bytes, text, hbytes, htext, heq⟩
  · rw [herr]
    exact ⟨nofun, fun h => absurd hlacks (not_lacks_of_reads h)⟩
  · rw [heq, mapError_eq_ok_iff]
    constructor
    · intro hparse
      exact ⟨bytes, text, hbytes, htext, hparse⟩
    · rintro ⟨bytes', text', hbytes', htext', hparse⟩
      obtain rfl := Option.some.inj (hbytes.symm.trans hbytes')
      obtain rfl := Option.some.inj (htext.symm.trans htext')
      exact hparse

/-- The failure of a single file, if it is not readable. -/
def fileFailure? (d : Directory) (file : TariffFile) : Option LoadFailure :=
  failure? (d.contents file file.parse)

theorem fileFailure?_eq_none_iff : d.fileFailure? file = none ↔ d.Readable file := by
  unfold fileFailure? Readable
  simp only [failure?_eq_none_iff, contents_eq_ok_iff]

/-- The failure of a file tells whether it is lacking. -/
theorem fileFailure?_eq_some_iff {f : LoadFailure} :
    d.fileFailure? file = some f ↔ (d.Lacks file ∧ f = .notFound file) ∨
      (¬d.Lacks file ∧ ∃ problem, d.contents file file.parse = .error (.unreadable file problem) ∧
        f = .unreadable file problem) := by
  unfold fileFailure?
  rw [failure?_eq_some_iff]
  rcases contents_cases d file with ⟨hlacks, herr⟩ | ⟨bytes, text, hbytes, htext, heq⟩
  · rw [herr]
    simp [hlacks, eq_comm]
  · have hnot : ¬d.Lacks file := fun hlacks => by simp [hlacks bytes hbytes] at htext
    rw [heq]
    simp only [hnot, false_and, not_false_eq_true, true_and, false_or, mapError_eq_error_iff]
    constructor
    · rintro ⟨problem, hparse, rfl⟩
      exact ⟨problem, ⟨problem, hparse, rfl⟩, rfl⟩
    · rintro ⟨problem, hparse, rfl⟩
      exact hparse

/-! ### The whole directory -/

/-- What the seven files hold. -/
structure Holds (d : Directory) (metadata : TariffMetadata) (tables : Tables) : Prop where
  metadata : d.Reads .metadata metadata
  zip3s : d.Reads (.table .zip3) tables.zip3s
  distances : d.Reads (.table .distance) tables.distances
  serviceAreas : d.Reads (.table .serviceArea) tables.serviceAreas
  baseLinehaul : d.Reads (.table .baseLinehaul) tables.baseLinehaul
  shorthaul : d.Reads (.table .shorthaul) tables.shorthaul
  discounts : d.Reads (.table .discount) tables.discounts

theorem read_eq_ok_iff {metadata : TariffMetadata} {tables : Tables} :
    d.read = .ok (metadata, tables) ↔ d.Holds metadata tables := by
  unfold read tableRows
  simp only [bind_eq_ok_iff, pure_eq_ok_iff]
  constructor
  · rintro ⟨m, hm, zip3s, hzip3s, distances, hdistances, serviceAreas, hareas, baseLinehaul, hbase,
      shorthaul, hshort, discounts, hdiscounts, heq⟩
    obtain ⟨rfl, rfl⟩ := Prod.mk.inj heq
    exact ⟨contents_eq_ok_iff.1 hm, contents_eq_ok_iff.1 hzip3s, contents_eq_ok_iff.1 hdistances,
      contents_eq_ok_iff.1 hareas, contents_eq_ok_iff.1 hbase, contents_eq_ok_iff.1 hshort,
      contents_eq_ok_iff.1 hdiscounts⟩
  · intro h
    exact ⟨_, contents_eq_ok_iff.2 h.metadata, _, contents_eq_ok_iff.2 h.zip3s,
      _, contents_eq_ok_iff.2 h.distances, _, contents_eq_ok_iff.2 h.serviceAreas,
      _, contents_eq_ok_iff.2 h.baseLinehaul, _, contents_eq_ok_iff.2 h.shorthaul,
      _, contents_eq_ok_iff.2 h.discounts, rfl⟩

theorem Holds.unique {metadata metadata' : TariffMetadata} {tables tables' : Tables}
    (h : d.Holds metadata tables) (h' : d.Holds metadata' tables') :
    metadata = metadata' ∧ tables = tables' := by
  have hread := read_eq_ok_iff.2 h
  rw [read_eq_ok_iff.2 h'] at hread
  obtain ⟨rfl, rfl⟩ := Prod.mk.inj (Except.ok.inj hread)
  exact ⟨rfl, rfl⟩

/-- Reading fails as the first file does that fails. -/
theorem failure?_read (d : Directory) :
    failure? d.read = TariffFile.all.findSome? d.fileFailure? := by
  simp only [TariffFile.all, TariffTable.all, List.map_cons, List.map_nil, findSome?_cons_eq_or,
    List.findSome?_nil]
  exact failure?_bind fun _ => failure?_bind fun _ => failure?_bind fun _ => failure?_bind fun _ =>
    failure?_bind fun _ => failure?_bind fun _ => failure?_bind fun _ => rfl

/-- The first file in the order of reading that is not readable. -/
def FirstUnread (d : Directory) (file : TariffFile) : Prop :=
  FirstWithout d.Readable TariffFile.all file

theorem FirstUnread.exists_fileFailure? (h : d.FirstUnread file) :
    ∃ f, d.fileFailure? file = some f := by
  obtain ⟨before, after, -, hunread, -⟩ := h
  refine Option.ne_none_iff_exists'.1 fun hnone => ?_
  exact hunread (fileFailure?_eq_none_iff.1 hnone)

theorem read_eq_error_iff {f : LoadFailure} :
    d.read = .error f ↔ ∃ file, d.FirstUnread file ∧ d.fileFailure? file = some f := by
  rw [← failure?_eq_some_iff, failure?_read]
  exact findSome?_eq_some_iff_firstWithout fun _ => fileFailure?_eq_none_iff

end Directory

end MoveRating
