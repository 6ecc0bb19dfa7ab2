import MoveRating.Yaml.Resolved
import MoveRating.Wire.Gathered

/-!
# Rows in documents

* `scalar` reads a scalar of a given kind.
* `row` reads a row, and `rows` a list of rows. Nothing counts as a record without members, and as
  a list without elements.
* `parseRow` reads a text that is one row, and `parseRows` one that is a record with a list of rows
  as a member.
-/

namespace MoveRating.Yaml

/-- What stops a reader of parts. -/
inductive Problem where
  /-- The text is not YAML, or not one document. -/
  | broken
  /-- References are followed too often, or lists and records lie too deep. -/
  | excessive
  /-- The document is not of the shape wanted at a place, which is a path of names and numbers. -/
  | data (place : String) (fault : DataFault)
deriving DecidableEq, Repr

namespace Problem

/-- A problem in words, as far as these hang on the data. -/
def report : Problem → String
  | broken | excessive => ""
  | data place fault =>
    if place.isEmpty then fault.report
    else String.ofList (place.toList.drop 1) ++ ": " ++ fault.report

/-- The member that the report names as missing. -/
def missing? (problem : Problem) : Option String := missingIn? problem.report

end Problem

/-- The outcome of reading what lies one step further on a path. -/
def within {α : Type} (step : String) : Except Problem α → Except Problem α
  | .error (.data place fault) => .error (.data (step ++ place) fault)
  | outcome => outcome

/-- A fault where a reader stands. -/
def misfit {α : Type} (fault : DataFault) : Except Problem α := .error (.data "" fault)

/-- What is left to read. -/
structure Source where
  /-- The parts. -/
  parts : List Part
  /-- The number of references that may still be followed. -/
  jumps : Nat

/-- Reads a value off the front. -/
abbrev Reader (α : Type) := Source → Except Problem (α × Source)

/-- With other parts. -/
def Source.at_ (s : Source) (parts : List Part) : Source := { s with parts }

/-- Reads a value where it stands, or where a reference in its place leads. -/
def dereferenced {α : Type} (d : Document) (read : Reader α) : Reader α := fun s =>
  match s.parts, s.jumps with
  | .alias anchor :: rest, jumps + 1 =>
    (read ⟨d.target anchor, jumps⟩).map fun (a, s) => (a, s.at_ rest)
  | .alias _ :: _, 0 => .error .excessive
  | _, _ => read s

/-! ### Scalars -/

/-- Reads a scalar with its tag. -/
def written (d : Document) : Reader (Option TagText × Written) :=
  dereferenced d fun s =>
    match s.parts with
    | [] => .error .broken
    | .scalar tag w :: rest => .ok ((tag, w), s.at_ rest)
    | _ => misfit .unexpected

/-- Reads the text of a scalar, whatever it stands for. -/
def text (d : Document) : Reader String := fun s =>
  (written d s).map fun ((_, w), s) => (String.ofList w.text, s)

/-- The scalar may be a number: it has no quotation marks, or it is a literal block with the tag of
whole numbers. -/
def mayBeInteger (tag : Option TagText) (w : Written) : Bool :=
  w.style == .plain || (w.style == .literal && tag == some (standardTag "int"))

/-- The whole number that a scalar stands for. -/
def integerOf? (tag : Option TagText) (w : Written) : Option (Bool × Nat) :=
  if mayBeInteger tag w then integer? w.text else none

/-- The unsigned number of 32 bits that a scalar stands for. -/
def word32Of? (tag : Option TagText) (w : Written) : Option UInt32 :=
  match integerOf? tag w with
  | some (false, n) => if n < UInt32.size then some (UInt32.ofNat n) else none
  | _ => none

/-- The signed number of 64 bits that a scalar stands for. -/
def word64Of? (tag : Option TagText) (w : Written) : Option Int64 :=
  (integerOf? tag w).bind fun (negative, n) => word? (if negative then -(n : Int) else n)

/-- The decimal that a scalar stands for. -/
def decimalOf (tag : Option TagText) (w : Written) : Except DataFault Decimal := do
  let found (fault : DataFault) (d : Option Decimal) : Except DataFault Decimal :=
    match d with
    | some d => .ok d
    | none => .error fault
  match ← resolve tag w with
  | .count n => .ok (.ofCount n)
  | .debit n => .ok (.ofWord n)
  | .float (some (negative, x)) => found .outOfRange (Decimal.ofBinary64? negative x)
  | .text s => found (.invalidText s) (Decimal.parse? s)
  | _ => .error .unexpected

/-- The scalar of a kind that a written one stands for. -/
def scalarOf (kind : Kind) (tag : Option TagText) (w : Written) : Except DataFault Scalar :=
  let s := String.ofList w.text
  let found (fault : DataFault) (v : Option Scalar) : Except DataFault Scalar :=
    match v with
    | some v => .ok v
    | none => .error fault
  match kind with
  | .word32 => found (misplaced w) ((word32Of? tag w).map .word32)
  | .word64 => found (misplaced w) ((word64Of? tag w).map .word64)
  | .text => .ok (.text s)
  | .date => found .unreadable ((Date.parse? s).map .date)
  | .decimal => (decimalOf tag w).map .decimal
  | .uuid => found .unreadable ((Uuid.parse? s).map .uuid)
  | .name choices =>
    found (.unknownName s choices) (if choices.contains s then some (.name s) else none)

/-- Reads a scalar of a kind. -/
def scalar (d : Document) (kind : Kind) : Reader Scalar := fun s => do
  let ((tag, w), s) ← written d s
  match scalarOf kind tag w with
  | .ok v => .ok (v, s)
  | .error fault => misfit fault

/-! ### Values that are passed over -/

/-- Passes over one value; `depth` lists and records are open around it. -/
def skipNode (depth : Nat) : List Part → Except Problem (List Part)
  | [] => .error .broken
  | p :: rest =>
    match p with
    | .listStart _ | .recordStart _ => skipNode (depth + 1) rest
    | .listEnd | .recordEnd => if depth ≤ 1 then .ok rest else skipNode (depth - 1) rest
    | .alias _ | .scalar .. => if depth = 0 then .ok rest else skipNode depth rest

/-- Passes over a value. -/
def skip : Reader Unit := fun s => (skipNode 0 s.parts).map fun rest => ((), s.at_ rest)

/-- The number of lists and records that may lie within a value which is kept aside. -/
def asideDepth : Nat := 125

/-- A scalar that is kept aside. -/
def asideOf (tag : Option TagText) (w : Written) : Except Problem Aside :=
  match resolve tag w with
  | .ok (.text s) => .ok (.text s)
  | .ok (.huge n) => misfit (.unexpectedInteger n)
  | .ok _ => .ok .other
  | .error fault => misfit fault

/-- A place within a list or record. -/
inductive Slot where
  /-- That of an element, by its number. -/
  | element (index : Nat)
  /-- That of a name. -/
  | name
  /-- That of the value after a part which is its name. -/
  | value (name : Part)
deriving DecidableEq, Repr

namespace Slot

/-- The step of a path to a value after its name. -/
def nameStep : Part → String
  | .scalar _ w => "." ++ String.ofList w.text
  | _ => ".?"

/-- The step of a path to a place. -/
def step : Slot → String
  | element index => "[" ++ Numeral.text index ++ "]"
  | name => ""
  | value p => nameStep p

/-- The place after a part. -/
def next (p : Part) : Slot → Slot
  | element index => element (index + 1)
  | name => value p
  | value _ => name

end Slot

/-- Reads a value that is kept aside; `many` reads what lies in a list or record. -/
def asideNode (many : Nat → Slot → Reader Unit) (depth : Nat) : Reader Aside := fun s =>
  let enter (tag : Option TagText) (slot : Slot) (rest : List Part) :
      Except Problem (Aside × Source) :=
    if isLocal tag then misfit .unexpected
    else
      match depth with
      | 0 => .error .excessive
      | depth + 1 => (many depth slot (s.at_ rest)).map fun ((), s) => (.other, s)
  match s.parts with
  | .scalar tag w :: rest => (asideOf tag w).map fun a => (a, s.at_ rest)
  | .listStart tag :: rest => enter tag (.element 0) rest
  | .recordStart tag :: rest => enter tag .name rest
  | [] => .error .broken
  | _ => misfit .unexpected

/-- Reads the values in a list or record to its end. `depth` more may lie within each other. -/
def asideMany (d : Document) : Nat → Nat → Slot → Reader Unit
  | 0, _, _, _ => .error .broken
  | fuel + 1, depth, slot, s =>
    match s.parts with
    | [] => .error .broken
    | .listEnd :: rest | .recordEnd :: rest => .ok ((), s.at_ rest)
    | p :: _ => do
      let (_, s) ← within slot.step (dereferenced d (asideNode (asideMany d fuel) depth) s)
      asideMany d fuel depth (slot.next p) s

/-- Reads a value that is kept aside. -/
def aside (d : Document) : Reader Aside :=
  dereferenced d (asideNode (asideMany d (asideDepth * (d.size + 2))) asideDepth)

/-! ### Records and lists -/

/-- Reads a member after its name. -/
abbrev MemberReader (ν : Type) := String → Gathered ν → Reader (Gathered ν)

/-- Reads the members of a record to its end. -/
def members {ν : Type} (d : Document) (member : MemberReader ν) :
    Nat → Gathered ν → Reader (Gathered ν)
  | 0, _, _ => .error .broken
  | fuel + 1, g, s =>
    match s.parts with
    | [] => .error .broken
    | .recordEnd :: rest => .ok (g, s.at_ rest)
    | p :: _ => do
      let (name, s) ← text d s
      let (g, s) ← within (Slot.nameStep p) (member name g s)
      members d member fuel g s

/-- Reads a record. -/
def record {ν : Type} (d : Document) (member : MemberReader ν) : Reader (Gathered ν) :=
  dereferenced d fun s =>
    match s.parts with
    | [] => .error .broken
    | .recordStart _ :: rest => members d member (d.size + 1) .empty (s.at_ rest)
    | .scalar _ w :: rest => if w = .empty then .ok (.empty, s.at_ rest) else misfit (misplaced w)
    | _ => misfit .unexpected

/-- Reads a member that nobody asks for. Beside dates, such members are looked at and those with
the names of the dates are kept aside. -/
def otherMember (d : Document) (dates : List String) : MemberReader Item := fun name g s =>
  if dates.isEmpty then (skip s).map fun ((), s) => (g, s)
  else do
    let (v, s) ← aside d s
    .ok (if dates.contains name then g.addAside name v else g, s)

/-- Reads a member of a row. -/
def rowMember (d : Document) (r : RowShape) : MemberReader Item := fun name g s =>
  match r.fields.lookup name with
  | none => otherMember d r.dates name g s
  | some f =>
    if g.has name then misfit (.repeated name)
    else do
      let (v, s) ← scalar d f.kind s
      .ok (g.add name (some v), s)

/-- Reads a row. -/
def row (d : Document) (r : RowShape) : Reader (List Item) := fun s => do
  let (g, s) ← record d (rowMember d r) s
  match arrangeDated r g with
  | .ok items => .ok (items, s)
  | .error fault => misfit fault

/-- Reads rows to the end of a list. -/
def rowsToEnd (d : Document) (r : RowShape) :
    Nat → Nat → List (List Item) → Reader (List (List Item))
  | 0, _, _, _ => .error .broken
  | fuel + 1, index, read, s =>
    match s.parts with
    | [] => .error .broken
    | .listEnd :: rest => .ok (read.reverse, s.at_ rest)
    | _ => do
      let (items, s) ← within (Slot.element index).step (row d r s)
      rowsToEnd d r fuel (index + 1) (items :: read) s

/-- Reads a list of rows. -/
def rows (d : Document) (r : RowShape) : Reader (List (List Item)) :=
  dereferenced d fun s =>
    match s.parts with
    | [] => .error .broken
    | .listStart _ :: rest => rowsToEnd d r (d.size + 1) 0 [] (s.at_ rest)
    | .scalar _ w :: rest => if w = .empty then .ok ([], s.at_ rest) else misfit (misplaced w)
    | _ => misfit .unexpected

/-- Reads a member of a record of which one member is a list of rows. -/
def listMember (d : Document) (name : String) (r : RowShape) : MemberReader (List (List Item)) :=
  fun other g s =>
    if other != name then (skip s).map fun ((), s) => (g, s)
    else if g.has name then misfit (.repeated name)
    else do
      let (v, s) ← rows d r s
      .ok (g.add name v, s)

/-- Reads a record of which the member `name` is a list of rows. -/
def rowsUnder (d : Document) (name : String) (r : RowShape) : Reader (List (List Item)) :=
  fun s => do
    let (g, s) ← record d (listMember d name r) s
    match g.read.lookup name with
    | some list => .ok (list, s)
    | none => misfit (.missing name)

/-! ### Whole texts -/

/-- The number of references that may be followed for each part of a document. -/
def jumpsPerPart : Nat := 100

/-- The value read off the front of the document of a text, if that is whole. -/
def parse {α : Type} (read : Document → Reader α) (text : String) : Except Problem α := do
  let d := Document.ofText text
  let (a, _) ← read d ⟨d.parts, jumpsPerPart * d.size⟩
  if d.isWhole then .ok a else .error .broken

/-- A value of a type with the given items. -/
def ofItems {α : Type} [Wire α] (items : List Item) : Except Problem α :=
  match Wire.ofValue? (.row items) with
  | some a => .ok a
  | none => misfit .unexpected

/-- Reads a text that is a row of a type. -/
def parseRow (α : Type) [Wire α] (r : RowShape) (text : String) : Except Problem α := do
  ofItems (← parse (fun d => row d r) text)

/-- Reads a text that is a record with a list of rows of a type as its member `name`. -/
def parseRows (α : Type) [Wire α] (name : String) (r : RowShape) (text : String) :
    Except Problem (List α) := do
  (← parse (fun d => rowsUnder d name r) text).mapM ofItems

end MoveRating.Yaml
