import MoveRating.Wire.Fault

/-!
# Symbols

What a reader of JSON reads: a list of symbols, each of them a character or a byte that belongs to
no character.

* `symbolsOf` cuts bytes into symbols.
* A `Reader` reads a value off the front of a list of symbols, or stops at the first `Problem`.
-/

namespace MoveRating.Json

/-- A character, or a byte that belongs to none. -/
abbrev Symbol := Option Char

/-- What stops a reader. -/
inductive Problem where
  /-- The text ends inside a value. -/
  | truncated
  /-- The text is not JSON. -/
  | malformed
  /-- The text is JSON so far, but not of the shape wanted. -/
  | data (fault : DataFault)
deriving DecidableEq, Repr

/-- Reads a value off the front of a list of symbols. -/
abbrev Reader (α : Type) := List Symbol → Except Problem (α × List Symbol)

/-! ### Symbols of bytes -/

/-- The first bytes of a character of several bytes. -/
structure Beginning where
  /-- The number of bytes read. -/
  size : Nat
  /-- The code point as far as it has been read. -/
  code : Nat
  /-- The number of bytes still to come. -/
  owed : Nat
  /-- The least value of the next byte. -/
  low : Nat
  /-- The greatest value of the next byte. -/
  high : Nat

/-- The beginning that a first byte makes, unless it stands for itself or for nothing. -/
def Beginning.ofFirst? (b : Nat) : Option Beginning :=
  if 0xC2 ≤ b ∧ b ≤ 0xDF then some ⟨1, b - 0xC0, 1, 0x80, 0xBF⟩
  else if b = 0xE0 then some ⟨1, 0, 2, 0xA0, 0xBF⟩
  else if b = 0xED then some ⟨1, 0xD, 2, 0x80, 0x9F⟩
  else if 0xE1 ≤ b ∧ b ≤ 0xEF then some ⟨1, b - 0xE0, 2, 0x80, 0xBF⟩
  else if b = 0xF0 then some ⟨1, 0, 3, 0x90, 0xBF⟩
  else if 0xF1 ≤ b ∧ b ≤ 0xF3 then some ⟨1, b - 0xF0, 3, 0x80, 0xBF⟩
  else if b = 0xF4 then some ⟨1, 4, 3, 0x80, 0x8F⟩
  else none

/-- Adds stray bytes to the symbols read, which stand in reverse. -/
def stray (count : Nat) (read : List Symbol) : List Symbol := List.replicate count none ++ read

/-- The state after a byte that does not continue a character. -/
def startCharacter (read : List Symbol) (b : Nat) : Option Beginning × List Symbol :=
  if b < 0x80 then (none, some (Char.ofNat b) :: read)
  else
    match Beginning.ofFirst? b with
    | some p => (some p, read)
    | none => (none, none :: read)

/-- The state after one more byte. -/
def takeByte : Option Beginning × List Symbol → UInt8 → Option Beginning × List Symbol
  | (none, read), b => startCharacter read b.toNat
  | (some p, read), b =>
    let b := b.toNat
    if p.low ≤ b ∧ b ≤ p.high then
      let code := p.code * 64 + (b - 0x80)
      if p.owed = 1 then (none, some (Char.ofNat code) :: read)
      else (some ⟨p.size + 1, code, p.owed - 1, 0x80, 0xBF⟩, read)
    else startCharacter (stray p.size read) b

/-- The symbols of some bytes. -/
def symbolsOf (bytes : List UInt8) : List Symbol :=
  match bytes.foldl takeByte (none, []) with
  | (none, read) => read.reverse
  | (some p, read) => (stray p.size read).reverse

/-- The symbols of a text. -/
def symbolsOfText (s : String) : List Symbol := s.toList.map some

/-! ### Gaps -/

/-- The symbol may stand between the parts of a text. -/
def isGap : Symbol → Bool
  | some c => c == ' ' || c == '\n' || c == '\t' || c == '\r'
  | none => false

/-- Skips what may stand between the parts of a text. -/
def skipGaps (s : List Symbol) : List Symbol := s.dropWhile isGap

/-- Reads the letters of a word. -/
def word : List Char → Reader Unit
  | [], s => .ok ((), s)
  | _ :: _, [] => .error .truncated
  | c :: cs, a :: s => if a = some c then word cs s else .error .malformed

/-- Reads the colon after a name. -/
def colon : Reader Unit := fun s =>
  match skipGaps s with
  | [] => .error .truncated
  | some ':' :: rest => .ok ((), rest)
  | _ => .error .malformed

end MoveRating.Json
