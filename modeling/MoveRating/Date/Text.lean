import MoveRating.Date.Basic
import MoveRating.Numeral
import MoveRating.Blank

/-!
# Dates as text

* `Date.text` writes `2018-01-15`. A year of four digits stands without a sign; any other year has
  its sign and at least four digits, as in `+12345-01-01` and `-0005-01-01`.
* `Date.parse?` reads a date. Blanks may stand before each number and each dash and at the end,
  month and day may have one digit, and a year without a sign has at most four.
-/

namespace MoveRating.Date

/-- A year as text. -/
def yearDigits (year : Int) : List Char :=
  if 0 ≤ year ∧ year ≤ 9999 then Numeral.padded 4 year.natAbs
  else (if year < 0 then '-' else '+') :: Numeral.padded 4 year.natAbs

/-- A date as characters. -/
def chars (d : Date) : List Char :=
  yearDigits d.year ++ '-' :: Numeral.padded 2 d.month ++ '-' :: Numeral.padded 2 d.day

/-- A date as text. -/
def text (d : Date) : String := String.ofList d.chars

/-- Reads a number of one or more digits off the front. -/
def takeNumber (cs : List Char) : Option (Nat × List Char) :=
  match cs.takeWhile Char.isDigit with
  | [] => none
  | ds => some (Numeral.value ds, cs.dropWhile Char.isDigit)

/-- Reads a number of at most `width` digits off the front; a further digit is left standing. -/
def takeShortNumber (width : Nat) (cs : List Char) : Option (Nat × List Char) :=
  match (cs.take width).takeWhile Char.isDigit with
  | [] => none
  | ds => some (Numeral.value ds, cs.drop ds.length)

/-- Reads a year: with a sign any number of digits, without one at most four. -/
def takeYear : List Char → Option (Int × List Char)
  | '-' :: cs => (takeNumber cs).map fun (n, rest) => (-(n : Int), rest)
  | '+' :: cs => (takeNumber cs).map fun (n, rest) => ((n : Int), rest)
  | cs => (takeShortNumber 4 cs).map fun (n, rest) => ((n : Int), rest)

/-- Reads a dash off the front. -/
def takeDash : List Char → Option (List Char)
  | '-' :: rest => some rest
  | _ => none

/-- Reads a date from characters. -/
def ofChars? (cs : List Char) : Option Date := do
  let (year, rest) ← takeYear (dropBlanks cs)
  let rest ← takeDash (dropBlanks rest)
  let (month, rest) ← takeShortNumber 2 (dropBlanks rest)
  let rest ← takeDash (dropBlanks rest)
  let (day, rest) ← takeShortNumber 2 (dropBlanks rest)
  if (dropBlanks rest).isEmpty then ofFields? year month day else none

/-- Reads a date from text. -/
def parse? (s : String) : Option Date := ofChars? s.toList

end MoveRating.Date
