import MoveRating.Date.Basic
import MoveRating.Decimal.Basic
import MoveRating.Reimbursement

/-!
# Shapes of data

The shapes in which values are written and read, whatever the format.

* A `Scalar` is a value without parts, of some `Kind`.
* A `RowShape` names the members of a record of scalars. Its `dates` are written beside the other
  members, but are gathered only after all of these have been read.
* A `Shape` is a scalar, a row, or a record of which some members are rows; `Value` is what has a
  shape.
* `Wire α` says how values of `α` are represented.
-/

namespace MoveRating

/-- A kind of scalar. -/
inductive Kind where
  /-- An unsigned number of 32 bits. -/
  | word32
  /-- A signed number of 64 bits. -/
  | word64
  /-- A text. -/
  | text
  /-- A date. -/
  | date
  /-- A decimal. -/
  | decimal
  /-- An identifier. -/
  | uuid
  /-- One of some names. -/
  | name (choices : List String)
deriving DecidableEq, Repr

/-- A value without parts. -/
inductive Scalar where
  | word32 (n : UInt32)
  | word64 (n : Int64)
  | text (s : String)
  | date (d : Date)
  | decimal (d : Decimal)
  | uuid (u : Uuid)
  | name (s : String)
deriving DecidableEq, Repr

/-- The scalar is of the kind. -/
def Scalar.IsOf : Scalar → Kind → Prop
  | word32 _, .word32 | word64 _, .word64 | text _, .text | date _, .date | decimal _, .decimal
  | uuid _, .uuid => True
  | name s, .name choices => s ∈ choices
  | _, _ => False

/-- A member of a row. -/
inductive Field where
  /-- It must be there. -/
  | required (kind : Kind)
  /-- It may be absent; an absent one is written as null if `asNull`, and else left out. -/
  | optional (kind : Kind) (asNull : Bool)
  /-- It has a value of its own if it is missing. -/
  | defaulted (kind : Kind) (value : Scalar)
deriving DecidableEq, Repr

/-- The value of a member of a row; only an optional one may be absent. -/
abbrev Item := Option Scalar

namespace Field

/-- The kind of the member's value. -/
def kind : Field → Kind
  | required k | optional k _ | defaulted k _ => k

/-- The member may be absent. -/
def isOptional : Field → Bool
  | optional .. => true
  | _ => false

/-- The item that a missing member stands for, if it may be missing. -/
def whenMissing? : Field → Option Item
  | required _ => none
  | optional .. => some none
  | defaulted _ value => some (some value)

/-- The item that a member stands for after the end of a record in the form of a list. -/
def whenEnded? : Field → Option Item
  | defaulted _ value => some (some value)
  | _ => none

end Field

/-- The members of a record of scalars. -/
structure RowShape where
  /-- The members and their names. -/
  fields : List (String × Field)
  /-- The names of dates that follow them. -/
  dates : List String
deriving DecidableEq, Repr

/-- The members of a row that are dates. -/
def RowShape.dateFields (r : RowShape) : List (String × Field) :=
  r.dates.map fun name => (name, .required .date)

/-- All members of a row in order. -/
def RowShape.allFields (r : RowShape) : List (String × Field) := r.fields ++ r.dateFields

/-- A member of a record that may hold rows. -/
inductive Member where
  /-- A scalar. -/
  | field (f : Field)
  /-- A row without dates. -/
  | row (fields : List (String × Field))
deriving DecidableEq, Repr

/-- The value of a member of a record that may hold rows. -/
inductive Cell where
  | item (i : Item)
  | row (items : List Item)
deriving DecidableEq, Repr

/-- The shape of a value. -/
inductive Shape where
  | scalar (kind : Kind)
  | row (r : RowShape)
  | nested (members : List (String × Member))
deriving DecidableEq, Repr

/-- A value in parts, as it is written and read. -/
inductive Value where
  | scalar (s : Scalar)
  | row (items : List Item)
  | nested (cells : List Cell)
deriving DecidableEq, Repr

/-- Types whose values are written and read. -/
class Wire (α : Type) where
  /-- The shape of all values. -/
  shape : Shape
  /-- The parts of a value. -/
  toValue : α → Value
  /-- The value with the given parts, if they have the shape. -/
  ofValue? : Value → Option α

end MoveRating
