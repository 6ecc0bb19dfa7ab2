import MoveRating.Json.Symbol
import MoveRating.Decimal.Binary64
import MoveRating.Word

/-!
# Numbers

* `number` reads a number. One without point and exponent is exact if it fits into 64 bits. Any
  other is a binary floating point number: its leading digits, as many as fit into 64 bits, times a
  power of ten, each of them and then the result rounded.
* `skipNumber` passes over a number of any size.
-/

namespace MoveRating.Json

/-- A number as it is read. -/
inductive Number where
  /-- A whole number without a sign. -/
  | count (n : UInt64)
  /-- A whole number below zero. -/
  | debit (n : Int64)
  /-- A number with a point or exponent, or too large for the others. -/
  | approximate (negative : Bool) (magnitude : Binary64)
deriving DecidableEq, Repr

namespace Number

/-- The number as an unsigned number of 32 bits. -/
def toWord32? : Number → Option UInt32
  | count n => if n.toNat < UInt32.size then some (UInt32.ofNat n.toNat) else none
  | _ => none

/-- The number as a signed number of 64 bits. -/
def toWord64? : Number → Option Int64
  | count n => word? n.toNat
  | debit n => some n
  | approximate .. => none

/-- The number as a decimal; an approximate one is the decimal of its shortest digits. -/
def toDecimal? : Number → Option Decimal
  | count n => some (.ofCount n)
  | debit n => some (.ofWord n)
  | approximate negative magnitude => Decimal.ofBinary64? negative magnitude

end Number

/-- The symbol is a decimal digit. -/
def isDigitSymbol : Symbol → Bool
  | some c => c.isDigit
  | none => false

/-- The value of a digit. -/
def digitValue : Symbol → Nat
  | some c => c.toNat - '0'.toNat
  | none => 0

/-- Takes the digits in front, which may be none. -/
def takeDigits (s : List Symbol) : List Nat × List Symbol :=
  ((s.takeWhile isDigitSymbol).map digitValue, s.dropWhile isDigitSymbol)

/-- Takes the digits in front, of which there must be one. -/
def someDigits : Reader (List Nat) := fun s =>
  match takeDigits s with
  | ([], []) => .error .truncated
  | ([], _ :: _) => .error .malformed
  | (ds, rest) => .ok (ds, rest)

/-- Takes the digits of a whole number: more than one only if the first is not zero. -/
def wholeDigits : Reader (List Nat) := fun s => do
  let (ds, rest) ← someDigits s
  match ds with
  | 0 :: _ :: _ => .error .malformed
  | _ => .ok (ds, rest)

/-- The value of the leading digits that fit into 64 bits after `start`, and the number of digits
after them. -/
def leading (start : Nat) : List Nat → Nat × Nat
  | [] => (start, 0)
  | d :: ds =>
    if UInt64.size ≤ start * 10 + d then (start, ds.length + 1) else leading (start * 10 + d) ds

/-- The floating point number `x * 10 ^ exponent`, unless it is too large. -/
def scaled? (x : Binary64) (exponent : Int) : Option Binary64 :=
  let times (e : Nat) := (Binary64.tenPow? e).bind x.mul?
  let divided (x : Binary64) (e : Nat) := (Binary64.tenPow? e).bind x.div?
  if x.significand = 0 then some .zero
  else if 308 < exponent then none
  else if 0 ≤ exponent then times exponent.toNat
  else if -308 ≤ exponent then divided x exponent.natAbs
  else if -616 ≤ exponent then (divided x 308).bind fun y => divided y (exponent + 308).natAbs
  else some .zero

/-- The sign and the digits of an exponent. -/
def exponentDigits : Reader (Bool × List Nat)
  | some '-' :: s => (someDigits s).map fun (ds, s) => ((true, ds), s)
  | some '+' :: s => (someDigits s).map fun (ds, s) => ((false, ds), s)
  | s => (someDigits s).map fun (ds, s) => ((false, ds), s)

/-- The value of a list of digits. -/
def digitsValue (ds : List Nat) : Nat := ds.foldl (fun n d => n * 10 + d) 0

/-- The number of the leading digits `digits`, moved by `shift` places, before what may be an
exponent. -/
def approximately (negative : Bool) (digits : Nat) (shift : Int) : Reader Number := fun s => do
  let (exponent, s) ← match s with
    | some 'e' :: s | some 'E' :: s => exponentDigits s
    | s => pure ((false, []), s)
  let size := digitsValue exponent.2
  let total := if exponent.1 then shift - size else shift + size
  match (Binary64.ofRatio? digits 1).bind fun x => scaled? x total with
  | some x => .ok (.approximate negative x, s)
  | none => .error .malformed

/-- The symbol begins an exponent. -/
def isExponentMark (a : Symbol) : Bool := a == some 'e' || a == some 'E'

/-- The whole number `n` with a sign. -/
def wholeNumber (negative : Bool) (n : Nat) : Number :=
  let approximation := Number.approximate negative ((Binary64.ofRatio? n 1).getD .zero)
  if !negative then .count (UInt64.ofNat n)
  else if n = 0 then approximation
  else
    match word? (-(n : Int)) with
    | some w => .debit w
    | none => approximation

/-- Reads a number after its sign. -/
def unsigned (negative : Bool) : Reader Number := fun s => do
  let (ds, s) ← wholeDigits s
  let (digits, dropped) := leading 0 ds
  match s with
  | some '.' :: s =>
    let (fs, s) ← someDigits s
    let (digits, unread) := leading digits fs
    approximately negative digits (dropped - (fs.length - unread : Nat)) s
  | s =>
    if s.head?.any isExponentMark || dropped != 0 then approximately negative digits dropped s
    else .ok (wholeNumber negative digits, s)

/-- Reads a number that begins with a sign or a digit. -/
def number : Reader Number
  | some '-' :: s => unsigned true s
  | s => unsigned false s

/-! ### Passing over numbers -/

/-- Takes the digits in front, of which there must be one; the end of the text is no digit. -/
def skipDigits (s : List Symbol) : Except Problem (List Symbol) :=
  match takeDigits s with
  | ([], _) => .error .malformed
  | (_, rest) => .ok rest

/-- Passes over an exponent, if there is one. -/
def skipExponent : Reader Unit
  | some 'e' :: s | some 'E' :: s => do
    let s ← match s with
      | some '+' :: s | some '-' :: s => skipDigits s
      | s => skipDigits s
    .ok ((), s)
  | s => .ok ((), s)

/-- Passes over a number that begins with a sign or a digit. -/
def skipNumber : Reader Unit := fun s => do
  let s := match s with
    | some '-' :: s => s
    | s => s
  let (ds, s) := takeDigits s
  match ds with
  | [] | 0 :: _ :: _ => .error .malformed
  | _ =>
    match s with
    | some '.' :: s => skipExponent (← skipDigits s)
    | s => skipExponent s

end MoveRating.Json
