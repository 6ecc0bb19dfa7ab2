import MoveRating.Word
import MoveRating.Date.Text

/-!
# Why a price is not given

* `RatingError` lists the reasons for which a request is refused, and `RatingError.message` words
  them.
* `Fault` adds the arithmetic `Overflow`s, which no request is refused for: they stop the
  computation itself. `Priced` is the outcome of a computation that may end in either way.
-/

namespace MoveRating

/-- The tables of a tariff. -/
inductive TariffTable where
  | zip3
  | distance
  | serviceArea
  | baseLinehaul
  | shorthaul
  | discount
deriving DecidableEq, Repr

namespace TariffTable

/-- The name of a table. -/
def name : TariffTable → String
  | zip3 => "zip3"
  | distance => "distance"
  | serviceArea => "service_area"
  | baseLinehaul => "base_linehaul"
  | shorthaul => "shorthaul"
  | discount => "discount"

/-- All tables. -/
def all : List TariffTable := [zip3, distance, serviceArea, baseLinehaul, shorthaul, discount]

end TariffTable

/-- A reason to refuse a request. -/
inductive RatingError where
  /-- A file of the tariff is missing or is not text. -/
  | fileNotFound (path : String)
  /-- A file of the tariff does not hold a valid table. -/
  | fileRejected (path message : String)
  /-- A table has no row for a key. -/
  | noRow (table : TariffTable) (key : String)
  /-- A table has rows for a key, but none that applies on the date. -/
  | noRateForDate (table : TariffTable) (key : String) (date : Date)
  /-- A table has several rows for a key that apply on the date. -/
  | ambiguousRate (table : TariffTable) (key : String) (date : Date)
  /-- No discount row covers the route on the date. -/
  | noDiscount (originZip3 destinationZip3 : UInt32) (date : Date)
  /-- The status does not allow the action. -/
  | invalidTransition (status action : String)
  /-- A value in the request is out of range. -/
  | invalidInput (field message : String)
deriving DecidableEq, Repr

/-- The wording of a refusal. -/
def RatingError.message : RatingError → String
  | fileNotFound path => s!"Configuration file not found: {path}"
  | fileRejected path message => s!"Failed to parse configuration file '{path}': {message}"
  | noRow table key => s!"No {table.name} row for key {key}"
  | noRateForDate table key date => s!"No {table.name} rate for key {key} effective on {date.text}"
  | ambiguousRate table key date =>
    s!"Multiple {table.name} rates for key {key} effective on {date.text}"
  | noDiscount origin destination date =>
    let from3 := Numeral.text origin.toNat
    let to3 := Numeral.text destination.toNat
    s!"No discount for route {from3} -> {to3} on {date.text}"
  | invalidTransition status action => s!"Invalid transition: cannot {action} from status {status}"
  | invalidInput field message => s!"Invalid {field}: {message}"

/-- What keeps a computation from an answer. -/
inductive Fault where
  /-- The request is refused. -/
  | refused (why : RatingError)
  /-- A figure overflows. -/
  | overflow (what : Overflow)
deriving DecidableEq, Repr

/-- The outcome of a computation that may be refused or overflow. -/
abbrev Priced (α : Type) := Except Fault α

instance : MonadLift (Except Overflow) (Except Fault) := ⟨Except.mapError Fault.overflow⟩

instance : MonadLift (Except RatingError) (Except Fault) := ⟨Except.mapError Fault.refused⟩

end MoveRating
