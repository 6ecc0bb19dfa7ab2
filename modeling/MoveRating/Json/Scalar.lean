import MoveRating.Json.Skip
import MoveRating.Wire.Shape
import MoveRating.Date.Text

/-!
# Scalars

`scalar` reads a scalar of a given kind and `scalarChars` writes one. Numbers stand for
themselves, all other scalars are texts; a decimal may also be given as a number, and a name as a
record whose only member is null.
-/

namespace MoveRating.Json

/-! ### Reading -/

/-- The problem with a value of another form than the one wanted. -/
def mismatch (s : List Symbol) : Problem :=
  match s with
  | [] => .truncated
  | a :: rest =>
    if a = some '"' then
      match textBody rest with
      | .ok (found, _) => .data (.unexpectedText found)
      | .error problem => problem
    else if a = some '[' ∨ a = some '\x7b' then .data .unexpected
    else if beginsNumber a then
      match number s with
      | .ok _ => .data .unexpected
      | .error problem => problem
    else
      match literal a with
      | some letters =>
        match word letters s with
        | .ok _ => .data .unexpected
        | .error problem => problem
      | none => .malformed

/-- A value that was looked for, or the fault of not finding it. -/
def found {α : Type} (fault : DataFault) (s : List Symbol) :
    Option α → Except Problem (α × List Symbol)
  | some a => .ok (a, s)
  | none => .error (.data fault)

/-- Reads a value of the form of a number. -/
def numeral {α : Type} (convert : Number → Option α) : Reader α := fun s =>
  let s := skipGaps s
  if s.head?.any beginsNumber then do
    let (n, s) ← number s
    found .outOfRange s (convert n)
  else .error (mismatch s)

/-- Reads a text. -/
def text : Reader String := fun s =>
  match skipGaps s with
  | some '"' :: s => textBody s
  | s => .error (mismatch s)

/-- Reads a decimal, which may be a number or a text. -/
def decimal : Reader Decimal := fun s =>
  let s := skipGaps s
  if s.head? = some (some '"') then do
    let (t, s) ← text s
    found (.invalidText t) s (Decimal.parse? t)
  else numeral Number.toDecimal? s

/-- A name, if it is one of those to choose from. -/
def choose (choices : List String) (name : String) (s : List Symbol) :
    Except Problem (String × List Symbol) :=
  found (.unknownName name choices) s (if choices.contains name then some name else none)

/-- Reads null. -/
def null : Reader Unit := fun s =>
  match skipGaps s with
  | some 'n' :: s => word "ull".toList s
  | s => .error (mismatch s)

/-- Reads the rest of a name in the form of a record, after the opening brace. -/
def nameAsRecord (choices : List String) : Reader String := fun s => do
  let (name, s) ← text s
  let (name, s) ← choose choices name s
  let ((), s) ← colon s
  let ((), s) ← null s
  match skipGaps s with
  | [] => .error .truncated
  | a :: s => if a = some '\x7d' then .ok (name, s) else .error .malformed

/-- Reads one of some names. -/
def name (choices : List String) : Reader String := fun s =>
  match skipGaps s with
  | [] => .error .truncated
  | a :: s =>
    if a = some '"' then do
      let (name, s) ← textBody s
      choose choices name s
    else if a = some '\x7b' then nameAsRecord choices s
    else .error .malformed

/-- Reads a scalar of a kind. -/
def scalar : Kind → Reader Scalar
  | .word32, s => (numeral Number.toWord32? s).map fun (n, s) => (.word32 n, s)
  | .word64, s => (numeral Number.toWord64? s).map fun (n, s) => (.word64 n, s)
  | .text, s => (text s).map fun (t, s) => (.text t, s)
  | .date, s => do
    let (t, s) ← text s
    found .unreadable s ((Date.parse? t).map .date)
  | .decimal, s => (decimal s).map fun (d, s) => (.decimal d, s)
  | .uuid, s => do
    let (t, s) ← text s
    found .unreadable s ((Uuid.parse? t).map .uuid)
  | .name choices, s => (name choices s).map fun (n, s) => (.name n, s)

/-- Reads the value of a member of a row. -/
def item (f : Field) : Reader Item := fun s =>
  let s := skipGaps s
  if f.isOptional && s.head? == some (some 'n') then (null s).map fun ((), s) => (none, s)
  else (scalar f.kind s).map fun (v, s) => (some v, s)

/-! ### Writing -/

/-- A scalar as characters. -/
def scalarChars : Scalar → List Char
  | .word32 n => Numeral.digits n.toNat
  | .word64 n => Numeral.signed n.toInt
  | .text s => quote s
  | .date d => quote d.text
  | .decimal d => quote d.text
  | .uuid u => quote u.text
  | .name s => quote s

/-- The value of a member as characters; an absent one is null. -/
def itemChars : Item → List Char
  | some v => scalarChars v
  | none => "null".toList

end MoveRating.Json
