/-!
# Places in a text

A `Cursor` is a place in a YAML text: what is left to read, and how far it lies from the start of
the text and of its line.

* `isBreak` and `isGap` tell line breaks and blanks; a carriage return with a line feed is one
  break.
* `Cursor.advance` moves on within a line, and `Cursor.takeBreak?` to the next line.
-/

namespace MoveRating.Yaml

/-- The character ends a line. -/
def isBreak (c : Char) : Bool :=
  c == '\n' || c == '\r' || c == '\x85' || c == '\u2028' || c == '\u2029'

/-- The character is a blank within a line. -/
def isGap (c : Char) : Bool := c == ' ' || c == '\t'

/-- The text is at its end or at the end of a line. -/
def atBreak (cs : List Char) : Bool := cs.head?.all isBreak

/-- The text is at its end or at a blank or the end of a line. -/
def atGap (cs : List Char) : Bool := cs.head?.all fun c => isGap c || isBreak c

/-- The character may stand in names of anchors and tags. -/
def isWordChar (c : Char) : Bool := c.isAlphanum || c == '_' || c == '-'

/-- The character may stand in a text at all. -/
def isAllowed (c : Char) : Bool :=
  let n := c.toNat
  n == 0x09 || n == 0x0A || n == 0x0D || (0x20 ≤ n && n ≤ 0x7E) || n == 0x85 ||
    (0xA0 ≤ n && n ≤ 0xFFFD) || 0x10000 ≤ n

/-- A place in a text. -/
structure Cursor where
  /-- What is left to read. -/
  rest : List Char
  /-- The number of bytes before it. -/
  index : Nat
  /-- The number of lines before it. -/
  line : Nat
  /-- The number of characters before it on its line. -/
  column : Nat
  /-- The number of characters of the whole text. -/
  size : Nat
deriving DecidableEq, Repr

namespace Cursor

/-- The start of a text. -/
def start (text : List Char) : Cursor := ⟨text, 0, 0, 0, text.length⟩

/-- More steps than there are characters left. -/
def fuel (c : Cursor) : Nat := c.size + 1

/-- The number of bytes of the next `n` characters. -/
def bytesAhead (c : Cursor) (n : Nat) : Nat :=
  (c.rest.take n).foldl (fun bytes a => bytes + a.utf8Size) 0

/-- The place `n` characters further on the same line. -/
def advance (c : Cursor) (n : Nat) : Cursor :=
  { c with rest := c.rest.drop n, index := c.index + c.bytesAhead n, column := c.column + n }

/-- The next line, after a break of `n` characters. -/
def nextLine (c : Cursor) (n : Nat) : Cursor :=
  { c with
    rest := c.rest.drop n, index := c.index + c.bytesAhead n, line := c.line + 1, column := 0 }

/-- The line break at a place, as it counts in a text, and the next line. -/
def takeBreak? (c : Cursor) : Option (Char × Cursor) :=
  match c.rest with
  | '\r' :: '\n' :: _ => some ('\n', c.nextLine 2)
  | b :: _ =>
    if b = '\u2028' ∨ b = '\u2029' then some (b, c.nextLine 1)
    else if isBreak b then some ('\n', c.nextLine 1)
    else none
  | [] => none

/-- The characters in front that have a property, and the place after them. -/
def takeWhile (c : Cursor) (p : Char → Bool) : List Char × Cursor :=
  let taken := c.rest.takeWhile p
  (taken, c.advance taken.length)

/-- The place after the characters in front that have a property. -/
def skipWhile (c : Cursor) (p : Char → Bool) : Cursor := (c.takeWhile p).2

/-- The place after a comment, if there is one. -/
def skipComment (c : Cursor) : Cursor :=
  if c.rest.head? = some '\x23' then c.skipWhile fun a => !isBreak a else c

/-- A marker of three characters stands alone at the start of a line. -/
def atMarker (c : Cursor) (marker : List Char) : Bool :=
  c.column == 0 && marker.isPrefixOf c.rest && atGap (c.rest.drop marker.length)

/-- A document begins or ends at this line. -/
def atDocumentMarker (c : Cursor) : Bool :=
  c.atMarker ['-', '-', '-'] || c.atMarker ['.', '.', '.']

end Cursor

/-- Reads something at a place, if it is there. -/
abbrev Scan (α : Type) := Cursor → Option (α × Cursor)

/-- Reads one given character. -/
def expect (a : Char) (c : Cursor) : Option Cursor :=
  if c.rest.head? = some a then some (c.advance 1) else none

end MoveRating.Yaml
