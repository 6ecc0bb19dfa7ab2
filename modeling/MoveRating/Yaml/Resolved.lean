import MoveRating.Yaml.Document
import MoveRating.Wire.Fault
import MoveRating.Decimal.Binary64
import MoveRating.Word

/-!
# What scalars stand for

A scalar without quotation marks may stand for something other than its text.

* `resolvePlain` tells what: nothing, a truth value, a number, or else the text.
* `resolve` heeds the tag as well.
* `integer?` and `float?` read numbers. A whole number may be hexadecimal, octal or binary, and in
  decimal it has no zeros in front.
-/

namespace MoveRating.Yaml

/-- What a scalar stands for. -/
inductive Resolved where
  /-- Nothing. -/
  | null
  /-- A truth value. -/
  | bool
  /-- A whole number from zero up. -/
  | count (n : UInt64)
  /-- A whole number with a minus sign. -/
  | debit (n : Int64)
  /-- A whole number of more than 64 bits. -/
  | huge (n : Int)
  /-- A number with a point or exponent, unless it is infinite or none. -/
  | float (x : Option (Bool × Binary64))
  /-- A text. -/
  | text (s : String)
deriving DecidableEq, Repr

/-! ### Numbers -/

/-- The value of a digit in a number to some base. -/
def digitIn? (base : Nat) (c : Char) : Option Nat :=
  (hexDigit? c).filter fun d => decide (d < base)

/-- The number that digits to some base denote. -/
def numberIn? (base : Nat) (cs : List Char) : Option Nat :=
  if cs.isEmpty then none
  else (cs.mapM (digitIn? base)).map fun ds => ds.foldl (fun n d => n * base + d) 0

/-- The characters are decimal digits, more than one, with a zero in front. -/
def hasLeadingZero : List Char → Bool
  | '0' :: c :: cs => (c :: cs).all Char.isDigit
  | _ => false

/-- The size of a whole number. -/
def magnitude? : List Char → Option Nat
  | '0' :: 'x' :: cs => numberIn? 16 cs
  | '0' :: 'o' :: cs => numberIn? 8 cs
  | '0' :: 'b' :: cs => numberIn? 2 cs
  | cs => if hasLeadingZero cs then none else numberIn? 10 cs

/-- The sign, true if it is a minus, and the size of a whole number. -/
def integer? : List Char → Option (Bool × Nat)
  | '-' :: cs => (magnitude? cs).map (true, ·)
  | '+' :: cs => (magnitude? cs).map (false, ·)
  | cs => (magnitude? cs).map (false, ·)

/-- The sign and digits of an exponent. -/
def exponent? (cs : List Char) : Option Int :=
  match cs with
  | '-' :: ds => (numberIn? 10 ds).map fun n => -(n : Int)
  | '+' :: ds => (numberIn? 10 ds).map Int.ofNat
  | ds => (numberIn? 10 ds).map Int.ofNat

/-- The floating point number nearest to `digits * 10 ^ shift`, unless it is infinite. -/
def nearestFloat? (digits : Nat) (shift : Int) : Option Binary64 :=
  if digits = 0 then some .zero
  else
    let size := (Numeral.digits digits).length + shift
    if 310 < size then none
    else if size < -400 then some .zero
    else Binary64.ofRatio? (digits * Numeral.tenPow shift.toNat) (Numeral.tenPow (-shift).toNat)

/-- Reads a number without sign that may have a point and an exponent. -/
def unsignedFloat? (cs : List Char) : Option Binary64 := do
  let isMark (c : Char) : Bool := c == 'e' || c == 'E'
  let size := cs.takeWhile fun c => !isMark c
  let exponent ← match cs.dropWhile fun c => !isMark c with
    | [] => some 0
    | _ :: ds => exponent? ds
  let whole := size.takeWhile (· != '.')
  let after := (size.dropWhile (· != '.')).drop 1
  let digits ← numberIn? 10 (whole ++ after)
  nearestFloat? digits (exponent - after.length)

/-- A number that may have a point and an exponent; there are names for infinity and for no
number. -/
def float? (cs : List Char) : Option (Option (Bool × Binary64)) :=
  let finite (cs : List Char) : Option (Option (Bool × Binary64)) :=
    match cs with
    | '-' :: ds => (unsignedFloat? ds).map fun x => some (true, x)
    | ds => (unsignedFloat? ds).map fun x => some (false, x)
  let infinities := [".inf", ".Inf", ".INF"].map String.toList
  if [".nan", ".NaN", ".NAN"].contains (String.ofList cs) then some none
  else
    match cs with
    | '+' :: '-' :: _ => none
    | '+' :: ds => if infinities.contains ds then some none else finite ds
    | '-' :: ds => if infinities.contains ds then some none else finite cs
    | ds => if infinities.contains ds then some none else finite ds

/-! ### Scalars -/

/-- A whole number as what it stands for, if it has at most 128 bits. -/
def Resolved.ofInteger? : Bool × Nat → Option Resolved
  | (false, n) =>
    if n < UInt64.size then some (.count (UInt64.ofNat n))
    else if n < 1 <<< 128 then some (.huge n)
    else none
  | (true, n) =>
    match word? (-(n : Int)) with
    | some w => some (.debit w)
    | none => if n ≤ 1 <<< 127 then some (.huge (-(n : Int))) else none

/-- The text stands for nothing. -/
def isNull (cs : List Char) : Bool := ["null", "Null", "NULL", "~"].contains (String.ofList cs)

/-- The text is a truth value. -/
def isBool (cs : List Char) : Bool :=
  ["true", "True", "TRUE", "false", "False", "FALSE"].contains (String.ofList cs)

/-- The text is a number with zeros in front, which stands for itself. -/
def isZeroPadded : List Char → Bool
  | '-' :: cs | '+' :: cs => hasLeadingZero cs
  | cs => hasLeadingZero cs

/-- What a number stands for. -/
def resolveNumber? (cs : List Char) : Option Resolved :=
  match (integer? cs).bind Resolved.ofInteger? with
  | some r => some r
  | none => if isZeroPadded cs then none else (float? cs).map .float

/-- What a scalar without quotation marks stands for. -/
def resolvePlain (cs : List Char) : Resolved :=
  if cs.isEmpty || isNull cs then .null
  else if isBool cs then .bool
  else (resolveNumber? cs).getD (.text (String.ofList cs))

/-- What a scalar stands for by its style alone. -/
def resolveUntagged (w : Written) : Resolved :=
  if w.style = .plain then resolvePlain w.text else .text (String.ofList w.text)

/-- The fault of a scalar in the place of something else. -/
def misplaced (w : Written) : DataFault :=
  match resolveUntagged w with
  | .text s => .unexpectedText s
  | _ => .unexpected

/-- The full text of a standard tag. -/
def standardTag (name : String) : TagText :=
  .ofChars ("tag:yaml.org,2002:".toList ++ name.toList)

/-- The tag begins with an exclamation mark, as those of no standard do. -/
def isMarked (tag : TagText) : Bool := tag.head? == some 0x21

/-- The tag is of no standard, and it is text. -/
def isLocal (tag : Option TagText) : Bool :=
  tag.any fun t => isMarked t && (String.fromUTF8? ⟨t.toArray⟩).isSome

/-- What a scalar stands for. -/
def resolve (tag : Option TagText) (w : Written) : Except DataFault Resolved :=
  let text := String.ofList w.text
  let expect (r : Option Resolved) : Except DataFault Resolved :=
    match r with
    | some r => .ok r
    | none => .error (.invalidText text)
  match tag with
  | none => .ok (resolveUntagged w)
  | some t =>
    if isLocal tag then .error .unexpected
    else if t = standardTag "null" then expect (if isNull w.text then some .null else none)
    else if t = standardTag "bool" then expect (if isBool w.text then some .bool else none)
    else if t = standardTag "int" then expect ((integer? w.text).bind Resolved.ofInteger?)
    else if t = standardTag "float" then expect ((float? w.text).map .float)
    else if isMarked t then .ok (resolveUntagged w)
    else .ok (.text text)

end MoveRating.Yaml
