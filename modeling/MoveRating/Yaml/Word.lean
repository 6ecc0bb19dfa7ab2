import MoveRating.Yaml.Cursor

/-!
# Anchors, tags and directives

* `anchorName` reads the name of an anchor, for `&` and `*` alike.
* `tag` reads a tag: a handle, and the text that stands after it.
* `directive` reads a directive, the version of the format or the meaning of a handle.
-/

namespace MoveRating.Yaml

/-- The text of a tag in bytes. Escapes may stand for bytes that make up no characters. -/
abbrev TagText := List UInt8

/-- The text of a tag of characters that are one byte each. -/
def TagText.ofChars (cs : List Char) : TagText := cs.map fun c => UInt8.ofNat c.toNat

/-- A tag as it is written. -/
structure Tag where
  /-- The handle, which stands for the beginning of the tag. -/
  handle : List Char
  /-- What follows the handle. -/
  suffix : TagText
deriving DecidableEq, Repr

/-- An instruction about the documents that follow. -/
inductive Directive where
  /-- The version of the format. -/
  | version (major minor : Nat)
  /-- The text that a tag handle stands for. -/
  | handle (name : List Char) (text : TagText)
deriving DecidableEq, Repr

/-- Reads the name of an anchor after its indicator. -/
def anchorName : Scan (List Char) := fun c =>
  let (name, c) := c.takeWhile isWordChar
  if !name.isEmpty && (atGap c.rest || c.rest.head?.any "?:,]\x7d%@\x60".toList.contains) then
    some (name, c)
  else none

/-! ### Tags -/

/-- The value of a hexadecimal digit. -/
def hexDigit? (c : Char) : Option Nat :=
  if '0' ≤ c ∧ c ≤ '9' then some (c.toNat - '0'.toNat)
  else if 'a' ≤ c ∧ c ≤ 'f' then some (c.toNat - 'a'.toNat + 10)
  else if 'A' ≤ c ∧ c ≤ 'F' then some (c.toNat - 'A'.toNat + 10)
  else none

/-- The number that hexadecimal digits denote. -/
def hexNumber? (cs : List Char) : Option Nat :=
  (cs.mapM hexDigit?).map fun ds => ds.foldl (fun n d => n * 16 + d) 0

/-- The byte that a percent sign and two digits stand for, and what follows them. -/
def percentByte? : List Char → Option (Nat × List Char)
  | '%' :: a :: b :: rest => (hexNumber? [a, b]).map fun n => (n, rest)
  | _ => none

/-- The number of bytes of a character, by its first byte. -/
def byteCount (first : Nat) : Nat :=
  if first < 0x80 then 1
  else if first / 0x20 = 6 then 2
  else if first / 0x10 = 14 then 3
  else if first / 8 = 30 then 4
  else 0

/-- The escaped bytes of one character, and what follows them. Only the first bits of each byte
have to be right. -/
def percentBytes? (cs : List Char) : Option (TagText × List Char) := do
  let (first, rest) ← percentByte? cs
  let more (state : List Nat × List Char) (_ : Nat) : Option (List Nat × List Char) := do
    let (b, rest) ← percentByte? state.2
    if b / 0x40 = 2 then some (b :: state.1, rest) else none
  let count := byteCount first
  if count = 0 then none
  else
    let (bytes, rest) ← (List.range (count - 1)).foldlM more ([first], rest)
    some (bytes.reverse.map UInt8.ofNat, rest)

/-- The character may stand in a tag; those that structure lists and records, only in brackets. -/
def isTagChar (bracketed : Bool) (c : Char) : Bool :=
  isWordChar c || ";/?:@&=+$.%!~*'()".toList.contains c || (bracketed && ",[]".toList.contains c)

/-- Reads the characters of a tag, as bytes. -/
def tagBytes (bracketed : Bool) : Nat → TagText → Scan TagText
  | 0, _, _ => none
  | fuel + 1, read, c =>
    match c.rest with
    | [] => some (read.reverse, c)
    | a :: _ =>
      if a = '%' then do
        let (bytes, rest) ← percentBytes? c.rest
        tagBytes bracketed fuel (bytes.reverse ++ read) (c.advance (c.rest.length - rest.length))
      else if isTagChar bracketed a then
        tagBytes bracketed fuel (UInt8.ofNat a.toNat :: read) (c.advance 1)
      else some (read.reverse, c)

/-- Reads the text of a tag, which begins with `head`. A byte zero ends it. -/
def tagText (bracketed : Bool) (head : List Char) : Scan TagText := fun c => do
  let (bytes, c') ← tagBytes bracketed c.fuel [] c
  if head.isEmpty && bytes.isEmpty then none
  else some ((TagText.ofChars (head.drop 1) ++ bytes).takeWhile (· != 0), c')

/-- Reads a tag between angle brackets, after the first of them. -/
def bracketedTag : Scan Tag := fun c => do
  let (text, c) ← tagText true [] c
  some (⟨[], text⟩, ← expect '>' c)

/-- Reads a tag that begins with an exclamation mark, which is still in front. -/
def plainTag : Scan Tag := fun c => do
  let (name, c) := (c.advance 1).takeWhile isWordChar
  if c.rest.head? = some '!' then
    let (suffix, c) ← tagText false [] (c.advance 1)
    some (⟨'!' :: name ++ ['!'], suffix⟩, c)
  else
    let (suffix, c) ← tagText false ('!' :: name) c
    some (if suffix.isEmpty then ⟨[], .ofChars ['!']⟩ else ⟨['!'], suffix⟩, c)

/-- Reads a tag, whose exclamation mark is still in front. -/
def tag (inFlow : Bool) : Scan Tag := fun c => do
  let (t, c) ←
    if (c.rest.drop 1).head? = some '<' then bracketedTag (c.advance 2) else plainTag c
  if atGap c.rest || (inFlow && c.rest.head? = some ',') then some (t, c) else none

/-! ### Directives -/

/-- Reads a part of a version number. -/
def versionPart : Scan Nat := fun c =>
  let (ds, c) := c.takeWhile Char.isDigit
  if ds.isEmpty || 9 < ds.length then none
  else some (Nat.ofDigitChars 10 ds 0, c)

/-- Reads the value of a version directive. -/
def versionValue : Scan Directive := fun c => do
  let (major, c) ← versionPart (c.skipWhile isGap)
  let (minor, c) ← versionPart (← expect '.' c)
  some (.version major minor, c)

/-- Reads the value of a handle directive. -/
def handleValue : Scan Directive := fun c => do
  let c ← expect '!' (c.skipWhile isGap)
  let (name, c) := c.takeWhile isWordChar
  let (name, c) ←
    if c.rest.head? = some '!' then some ('!' :: name ++ ['!'], c.advance 1)
    else if name.isEmpty then some (['!'], c)
    else none
  if !c.rest.head?.any isGap then none
  else
    let (text, c) ← tagText true [] (c.skipWhile isGap)
    if atGap c.rest then some (.handle name text, c) else none

/-- Reads a directive up to the end of its line, after the percent sign. -/
def directive : Scan Directive := fun c => do
  let (name, c) := c.takeWhile isWordChar
  if name.isEmpty || !atGap c.rest then none
  else
    let (d, c) ←
      if name = "YAML".toList then versionValue c
      else if name = "TAG".toList then handleValue c
      else none
    let c := (c.skipWhile isGap).skipComment
    match c.takeBreak? with
    | some (_, c) => some (d, c)
    | none => if c.rest.isEmpty then some (d, c) else none

end MoveRating.Yaml
