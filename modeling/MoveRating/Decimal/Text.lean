import MoveRating.Decimal.Basic

/-!
# Decimals as text

* `Decimal.text` writes a decimal with all its places, as in `0.10`.
* `Decimal.parse?` reads a decimal. A sign may stand in front, underscores between digits are
  skipped, the digits on one side of the point may be missing, and an exponent may follow.
  Digits that no longer fit after the point are cut off, with the first of them rounded half up.
-/

namespace MoveRating.Decimal

/-! ### Writing -/

/-- The decimal as characters. -/
def chars (d : Decimal) : List Char :=
  let ds := Numeral.padded (d.places + 1) d.magnitude
  let whole := ds.take (ds.length - d.places)
  let body := if d.places = 0 then whole else whole ++ '.' :: ds.drop (ds.length - d.places)
  if d.negative then '-' :: body else body

/-- A decimal as text. -/
def text (d : Decimal) : String := String.ofList d.chars

/-! ### Reading -/

/-- The value of a decimal digit. -/
def digitValue (c : Char) : Nat := c.toNat - '0'.toNat

/-- A coefficient whose next digit does not fit any more, rounded by that digit. -/
def roundOff (coefficient places : Nat) (next : Nat) : Option (Nat × Nat) :=
  if next < 5 then some (coefficient, places)
  else if coefficient + 1 < sizeLimit then some (coefficient + 1, places)
  else if places = 0 then none
  else some ((coefficient + 5) / 10, places - 1)

/-- Only digits and underscores are left. -/
def isTail (cs : List Char) : Bool := cs.all fun c => c.isDigit || c == '_'

/-- The coefficients that are short before their last place: the next digit and some more still fit
a word of 64 bits. -/
def shortLimit : Nat := (UInt64.size - 1) / 10 - 255

/-- Reads the digits of an unsigned decimal, after `coefficient` and `places` have been read.
`point` tells that the point has been read, and `started` that a digit has. An underscore right
after the last place stands for a zero if the coefficient is short, and is skipped if it is not. -/
def readDigits (coefficient places : Nat) (point started : Bool) :
    List Char → Option (Nat × Nat)
  | [] => if started then some (coefficient, places) else none
  | c :: cs =>
    if c = '_' ∧ started then
      if places = 28 ∧ coefficient / 10 < shortLimit then
        if isTail cs then some (coefficient, places) else none
      else readDigits coefficient places point started cs
    else if c = '.' ∧ ¬point then readDigits coefficient places true started cs
    else if ¬c.isDigit then none
    else if point ∧ (places = 28 ∨ sizeLimit ≤ 10 * coefficient + digitValue c) then
      if isTail cs then roundOff coefficient places (digitValue c) else none
    else if sizeLimit ≤ 10 * coefficient + digitValue c then none
    else readDigits (10 * coefficient + digitValue c) (if point then places + 1 else places) point
      true cs

/-- Reads a decimal without exponent. -/
def ofPlain? (cs : List Char) : Option Decimal :=
  match cs with
  | '-' :: rest => (readDigits 0 0 false false rest).bind fun (c, p) => ofParts? (-(c : Int)) p
  | '+' :: rest => (readDigits 0 0 false false rest).bind fun (c, p) => ofParts? c p
  | rest => (readDigits 0 0 false false rest).bind fun (c, p) => ofParts? c p

/-- Reads the digits of an exponent, which may have a plus sign. -/
def readExponent (cs : List Char) : Option Nat :=
  let ds := match cs with
    | '+' :: rest => rest
    | rest => rest
  if ds ≠ [] ∧ ds.all Char.isDigit then some (Numeral.value ds) else none

/-- The character begins an exponent. -/
def isExponentMark (c : Char) : Bool := c == 'e' || c == 'E'

/-- Reads a decimal from characters. -/
def ofChars? (cs : List Char) : Option Decimal :=
  match cs.dropWhile (fun c => !isExponentMark c) with
  | [] => ofPlain? cs
  | _ :: exponent => do
    let base ← ofPlain? (cs.takeWhile fun c => !isExponentMark c)
    match exponent with
    | '-' :: down => shiftDown? base (← readExponent down)
    | up => shiftUp? base (← readExponent up)

/-- Reads a decimal from text. -/
def parse? (s : String) : Option Decimal := ofChars? s.toList

end MoveRating.Decimal
