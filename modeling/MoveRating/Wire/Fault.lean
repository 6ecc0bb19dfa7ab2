import MoveRating.Text.Quoted

/-!
# Misshapen data

A text may be well formed and still not hold a value of the shape that is wanted.

* `DataFault` lists the ways.
* `DataFault.report` puts a fault into words. It quotes the text found in place of a value, and so
  it may seem to name a missing member where there is none.
* `DataFault.missing?` is the member that the report names as missing.
-/

namespace MoveRating

/-- A way in which data differ from the shape wanted of them. -/
inductive DataFault where
  /-- A member of a record is missing. -/
  | missing (member : String)
  /-- A member of a record is there twice. -/
  | repeated (member : String)
  /-- Something stands in the place of a value, and it is not text. -/
  | unexpected
  /-- A text stands in the place of a value. -/
  | unexpectedText (found : String)
  /-- A whole number of more than 64 bits stands in the place of a value. -/
  | unexpectedInteger (found : Int)
  /-- A text does not denote a value of the kind that it should. -/
  | invalidText (found : String)
  /-- A text does not denote a date or an identifier. -/
  | unreadable
  /-- A number is out of range or has a point. -/
  | outOfRange
  /-- A record in the form of a list has too few elements. -/
  | tooFew
  /-- A name is not one of those to choose from. -/
  | unknownName (found : String) (choices : List String)
deriving DecidableEq, Repr

/-- What follows the first occurrence of `marker`. -/
def textAfter? (marker : List Char) : List Char → Option (List Char)
  | [] => if marker.isEmpty then some [] else none
  | c :: cs =>
    if marker.isPrefixOf (c :: cs) then some ((c :: cs).drop marker.length)
    else textAfter? marker cs

/-- The member that a report names as missing. -/
def missingIn? (report : String) : Option String :=
  (textAfter? "missing field `".toList report.toList).bind fun cs =>
    let named := cs.takeWhile fun c => c != '\x60'
    if named.length < cs.length then some (String.ofList named) else none

namespace DataFault

/-- A name between accents. -/
def accented (name : String) : String := "`" ++ name ++ "`"

/-- The names to choose from, in words. -/
def choicesText : List String → String
  | [a, b] => accented a ++ " or " ++ accented b
  | names => "one of " ++ ", ".intercalate (names.map accented)

/-- A fault in words, as far as these hang on the data. -/
def report : DataFault → String
  | missing member => "missing field " ++ accented member
  | unexpectedText found => "invalid type: string " ++ quoted found
  | unexpectedInteger found => "invalid type: integer " ++ accented (Numeral.signedText found)
  | invalidText found => "invalid value: string " ++ quoted found
  | unknownName found choices =>
    "unknown variant " ++ accented found ++ ", expected " ++ choicesText choices
  | repeated _ | unexpected | unreadable | outOfRange | tooFew => ""

/-- The report speaks of a missing member. -/
def mentionsMissing (fault : DataFault) : Bool :=
  (textAfter? "missing field".toList fault.report.toList).isSome

/-- The member that the report names as missing. -/
def missing? (fault : DataFault) : Option String := missingIn? fault.report

end DataFault

end MoveRating
