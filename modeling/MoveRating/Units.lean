import MoveRating.Word
import MoveRating.Numeral

/-!
# Weights, amounts and hauls

* `Pounds` and `Cwt` are weights; a shipment is rated by its whole hundredweights (`Pounds.toCwt`).
* `Cents` are amounts of money, with checked sums and products and the text `Cents.text`.
* `Haul` says which of the two linehaul tables prices a mileage.
-/

namespace MoveRating

/-- A weight in pounds. -/
structure Pounds where
  /-- The number of pounds. -/
  val : Int64
deriving DecidableEq, Repr

/-- A weight in hundredweights, the unit that rates are quoted per. -/
structure Cwt where
  /-- The number of hundredweights. -/
  val : Int64
deriving DecidableEq, Repr

/-- An amount of money in cents. -/
structure Cents where
  /-- The number of cents. -/
  val : Int64
deriving DecidableEq, Repr

/-- The whole hundredweights in a weight; the rest, of either sign, is dropped. -/
def Pounds.toCwt (p : Pounds) : Cwt := ⟨p.val / 100⟩

/-- A weight as text, as in `20 cwt`. -/
def Cwt.text (w : Cwt) : String := Numeral.signedText w.val.toInt ++ " cwt"

/-- The three-digit area that a five-digit postal code lies in. -/
def zip3Of (zip5 : UInt32) : UInt32 := zip5 / 100

namespace Cents

/-- No money. -/
def zero : Cents := ⟨0⟩

/-- A rate times a number of units. -/
def times (rate : Cents) (units : Int64) : Except Overflow Cents :=
  Cents.mk <$> checkedMul rate.val units

/-- The price of a weight at a rate per hundredweight. -/
def perCwt (rate : Cents) (weight : Cwt) : Except Overflow Cents := rate.times weight.val

/-- The sum of two amounts. -/
def add (a b : Cents) : Except Overflow Cents := Cents.mk <$> checkedAdd a.val b.val

/-- A running total: `start` and then each amount in turn. -/
def addAll (start : Cents) (amounts : List Cents) : Except Overflow Cents :=
  amounts.foldlM add start

/-- The total of some amounts, added from the left. -/
def sum (amounts : List Cents) : Except Overflow Cents := zero.addAll amounts

/-- An amount as text: a minus sign if it is negative, the dollars, and the cents in two digits. -/
def text (a : Cents) : String :=
  let size := a.val.toInt.natAbs
  let body := '$' :: Numeral.digits (size / 100) ++ '.' :: Numeral.padded 2 (size % 100)
  String.ofList (if a.val.toInt < 0 then '-' :: body else body)

end Cents

/-- The two kinds of haul, each with a rate table of its own. -/
inductive Haul where
  /-- Below 800 miles, rated by hundredweight-miles. -/
  | shorthaul
  /-- From 800 miles on, rated by mileage and weight. -/
  | longhaul
deriving DecidableEq, Repr

namespace Haul

/-- The mileage at which a longhaul begins. -/
def longhaulMiles : UInt32 := 800

/-- The kind of haul of a mileage. -/
def ofMiles (miles : UInt32) : Haul := if miles < longhaulMiles then shorthaul else longhaul

/-- The name of a kind of haul. -/
def name : Haul → String
  | shorthaul => "shorthaul"
  | longhaul => "longhaul"

end Haul

end MoveRating
