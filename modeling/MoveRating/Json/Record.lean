import MoveRating.Json.Scalar
import MoveRating.Wire.Gathered

/-!
# Records

* `rowBody` and `nestedBody` read the members of a record after its opening brace, in any order.
  Members that nobody asks for are passed over, and a member must not come twice.
* A record may also be a list of its members in order, unless dates are written beside them.
* `value` reads a value of a given `Shape`, and `valueChars` writes it.
* `parse?` reads a whole text as a value of a type, and `write` writes such a value.
-/

namespace MoveRating.Json

/-! ### Reading records -/

/-- How the members of a record are read. -/
structure MemberReader (τ ν : Type) where
  /-- Reads the value of a member. -/
  value : τ → Reader ν
  /-- The value of a member that is missing, if it may be missing. -/
  whenMissing? : τ → Option ν
  /-- The value of a member after the end of a record in the form of a list, if there may be
  none. -/
  whenEnded? : τ → Option ν

/-- Reads a value that is kept aside. -/
def aside : Reader Aside := fun s =>
  let s := skipGaps s
  if s.head? = some (some '"') then (text s).map fun (t, s) => (.text t, s)
  else (pass .strict s).map fun ((), s) => (.other, s)

/-- What is done with members that a record does not ask for. -/
inductive Others where
  /-- They are passed over. -/
  | passed
  /-- They are read, and those with one of the names are kept aside. -/
  | kept (names : List String)

/-- Reads the value of a member that is not asked for. -/
def Others.value {ν : Type} (others : Others) (name : String) (gathered : Gathered ν) :
    Reader (Gathered ν) := fun s =>
  match others with
  | .passed => (pass .loose s).map fun ((), s) => (gathered, s)
  | .kept names => do
    let (v, s) ← aside s
    if names.contains name then .ok (gathered.addAside name v, s) else .ok (gathered, s)

section Members

variable {τ ν : Type} (reader : MemberReader τ ν) (members : List (String × τ)) (others : Others)

/-- Reads a member after its name. -/
def namedMember (name : String) (gathered : Gathered ν) : Reader (Gathered ν) := fun s =>
  match members.lookup name with
  | some m =>
    if gathered.has name then .error (.data (.repeated name))
    else do
      let ((), s) ← colon s
      let (v, s) ← reader.value m s
      .ok (gathered.add name v, s)
  | none => do
    let ((), s) ← colon s
    others.value name gathered s

/-- Reads a member. -/
def oneMember (gathered : Gathered ν) : Reader (Gathered ν) := fun s =>
  match skipGaps s with
  | [] => .error .truncated
  | a :: s =>
    if a = some '"' then do
      let (name, s) ← textBody s
      namedMember reader members others name gathered s
    else .error .malformed

/-- Reads members up to the closing brace. After the first of them each begins with a comma. -/
def moreMembers : Nat → Gathered ν → Reader (Gathered ν)
  | 0, _, _ => .error .truncated
  | fuel + 1, gathered, s =>
    match skipGaps s with
    | [] => .error .truncated
    | a :: s =>
      if a = some '\x7d' then .ok (gathered, s)
      else if a = some ',' then do
        let (gathered, s) ← oneMember reader members others gathered s
        moreMembers fuel gathered s
      else .error .malformed

/-- Reads all members after an opening brace. -/
def allMembers : Reader (Gathered ν) := fun s =>
  match skipGaps s with
  | [] => .error .truncated
  | a :: rest =>
    if a = some '\x7d' then .ok (Gathered.empty, rest)
    else do
      let (gathered, s) ← oneMember reader members others .empty (a :: rest)
      moreMembers reader members others (s.length + 1) gathered s

/-- Reads one element of a record in the form of a list, if there is one. -/
def oneElement (first : Bool) (m : τ) : Reader (Option ν) := fun s =>
  let value (s : List Symbol) := (reader.value m s).map fun (v, s) => (some v, s)
  match skipGaps s with
  | [] => .error .truncated
  | a :: rest =>
    if a = some ']' then .ok (none, a :: rest)
    else if first then value (a :: rest)
    else if a = some ',' then
      match skipGaps rest with
      | [] => .error .truncated
      | b :: rest => if b = some ']' then .error .malformed else value (b :: rest)
    else .error .malformed

/-- Reads the elements of a record in the form of a list. -/
def elements (first : Bool) : List τ → Reader (List ν)
  | [], s => .ok ([], s)
  | m :: ms, s => do
    let (v?, s) ← oneElement reader first m s
    match v?.or (reader.whenEnded? m) with
    | none => .error (.data .tooFew)
    | some v =>
      let (vs, s) ← elements (first && v?.isNone) ms s
      .ok (v :: vs, s)

/-- Reads a record in the form of a list after its opening bracket. -/
def listBody : Reader (List ν) := fun s => do
  let (vs, s) ← elements reader true (members.map Prod.snd) s
  match skipGaps s with
  | [] => .error .truncated
  | a :: s => if a = some ']' then .ok (vs, s) else .error .malformed

/-- Reads the members of a record after its opening brace. -/
def recordBody : Reader (List ν) := fun s => do
  let (gathered, s) ← allMembers reader members .passed s
  match arrange reader.whenMissing? members gathered.read with
  | .ok vs => .ok (vs, s)
  | .error fault => .error (.data fault)

/-- Reads a record, in either form. -/
def record : Reader (List ν) := fun s =>
  match skipGaps s with
  | [] => .error .truncated
  | a :: rest =>
    if a = some '\x7b' then recordBody reader members rest
    else if a = some '[' then listBody reader members rest
    else .error (mismatch (a :: rest))

end Members

/-- How the members of a row are read. -/
def fieldReader : MemberReader Field Item := ⟨item, Field.whenMissing?, Field.whenEnded?⟩

/-- Reads a row that has dates beside its other members; it has the form of a record. -/
def datedRow (r : RowShape) : Reader (List Item) := fun s =>
  match skipGaps s with
  | [] => .error .truncated
  | a :: rest =>
    if a = some '\x7b' then do
      let (gathered, s) ← allMembers fieldReader r.fields (.kept r.dates) rest
      match arrangeDated r gathered with
      | .ok items => .ok (items, s)
      | .error fault => .error (.data fault)
    else .error (mismatch (a :: rest))

/-- Reads a row. -/
def row (r : RowShape) : Reader (List Item) :=
  if r.dates.isEmpty then record fieldReader r.fields else datedRow r

/-- Reads the value of a member that may be a row. -/
def cell : Member → Reader Cell
  | .field f, s => (item f s).map fun (i, s) => (.item i, s)
  | .row fields, s => (record fieldReader fields s).map fun (items, s) => (.row items, s)

/-- How the members of a record are read that may be rows. -/
def memberReader : MemberReader Member Cell where
  value := cell
  whenMissing?
    | .field f => f.whenMissing?.map .item
    | .row _ => none
  whenEnded?
    | .field f => f.whenEnded?.map .item
    | .row _ => none

/-- Reads a value of a shape. -/
def value : Shape → Reader Value
  | .scalar kind, s => (scalar kind s).map fun (v, s) => (.scalar v, s)
  | .row r, s => (row r s).map fun (items, s) => (.row items, s)
  | .nested members, s => (record memberReader members s).map fun (cells, s) => (.nested cells, s)

/-! ### Reading whole texts -/

/-- Reads a value of a type off the front. -/
def read {α : Type} [Wire α] : Reader α := fun s => do
  let (v, s) ← value (Wire.shape α) s
  found .unexpected s (Wire.ofValue? v)

/-- Reads a text that is one value of a type. -/
def parse? (α : Type) [Wire α] (t : String) : Except Problem α := do
  let (a, s) ← read (symbolsOfText t)
  if (skipGaps s).isEmpty then .ok a else .error .malformed

/-! ### Writing -/

/-- A member as characters. -/
def memberChars (name : String) (body : List Char) : List Char := quote name ++ ':' :: body

/-- Members between braces, with commas between them. -/
def braces (members : List (List Char)) : List Char :=
  '\x7b' :: [','].intercalate members ++ ['\x7d']

/-- A member of a row as characters, unless it is left out. -/
def fieldChars? : (String × Field) × Item → Option (List Char)
  | ((_, .optional _ false), none) => none
  | ((name, _), i) => some (memberChars name (itemChars i))

/-- A row as characters. -/
def rowChars (fields : List (String × Field)) (items : List Item) : List Char :=
  braces ((fields.zip items).filterMap fieldChars?)

/-- A member that may be a row as characters, unless it is left out. -/
def cellChars? : (String × Member) × Cell → Option (List Char)
  | ((name, .field f), .item i) => fieldChars? ((name, f), i)
  | ((name, .row fields), .row items) => some (memberChars name (rowChars fields items))
  | _ => none

/-- A value of a shape as characters. -/
def valueChars : Shape → Value → List Char
  | .scalar _, .scalar v => scalarChars v
  | .row r, .row items => rowChars r.allFields items
  | .nested members, .nested cells => braces ((members.zip cells).filterMap cellChars?)
  | _, _ => []

/-- A value as text. -/
def write {α : Type} [Wire α] (a : α) : String :=
  String.ofList (valueChars (Wire.shape α) (Wire.toValue a))

end MoveRating.Json
