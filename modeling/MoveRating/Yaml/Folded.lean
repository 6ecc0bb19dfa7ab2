import MoveRating.Yaml.Word

/-!
# Texts over several lines

A text that is not a block may run over several lines. Between its words stand blanks, or line
breaks with blanks around them, which are folded: a single break becomes a blank, and of several
breaks the first one is dropped.

* `plain` reads a text without quotation marks.
* `singleQuoted` and `doubleQuoted` read a text after its opening quotation mark.
-/

namespace MoveRating.Yaml

/-! ### Between words -/

/-- What stands between two words of a text. -/
structure Between where
  /-- The blanks, if both words are on one line. -/
  blanks : List Char
  /-- The line breaks. -/
  breaks : List Char
  /-- The first line was ended by a backslash. -/
  continued : Bool
deriving DecidableEq, Repr

namespace Between

/-- Nothing. -/
def nothing : Between := ⟨[], [], false⟩

/-- A line that is ended by a backslash. -/
def continuedLine : Between := ⟨[], [], true⟩

/-- The second word stands on another line. -/
def isNewLine (b : Between) : Bool := b.continued || !b.breaks.isEmpty

/-- What counts of it in the text. -/
def folded (b : Between) : List Char :=
  if b.continued then b.breaks
  else
    match b.breaks with
    | [] => b.blanks
    | ['\n'] => [' ']
    | '\n' :: more => more
    | breaks => breaks

/-- With one more blank. -/
def blank (b : Between) (a : Char) : Between :=
  if b.isNewLine then b else { b with blanks := b.blanks ++ [a] }

/-- With one more line break. -/
def newBreak (b : Between) (a : Char) : Between :=
  { b with blanks := [], breaks := b.breaks ++ [a] }

end Between

/-- Reads what stands before the next word. A tab must not stand before column `margin` of a later
line. -/
def between (margin : Nat) : Nat → Between → Scan Between
  | 0, _, _ => none
  | fuel + 1, b, c =>
    match c.rest with
    | [] => some (b, c)
    | a :: _ =>
      if isGap a then
        if b.isNewLine && a == '\t' && c.column < margin then none
        else between margin fuel (b.blank a) (c.advance 1)
      else
        match c.takeBreak? with
        | some (br, c) => between margin fuel (b.newBreak br) c
        | none => some (b, c)

/-! ### Plain text -/

/-- The character structures lists and records in brackets. -/
def isFlowMark (c : Char) : Bool := ",[]\x7b\x7d".toList.contains c

/-- Reads a word of a plain text. In brackets a colon must not stand before a mark. -/
def plainWord (inFlow : Bool) : List Char → Option (List Char)
  | [] => some []
  | a :: rest =>
    if isGap a || isBreak a then some []
    else if inFlow && a == ':' && rest.head?.any fun b => b == '?' || isFlowMark b then none
    else if a == ':' && atGap rest then some []
    else if inFlow && isFlowMark a then some []
    else (plainWord inFlow rest).map (a :: ·)

/-- A plain text as it is read. -/
structure PlainText where
  /-- The text. -/
  text : List Char
  /-- The reader has gone on to a later line. -/
  newLine : Bool

/-- Reads the words of a plain text after those in `read`, which stand in reverse. The later words
must not stand before column `margin`. -/
def plainWords (inFlow : Bool) (margin : Nat) : Nat → List Char → Between → Scan PlainText
  | 0, _, _, _ => none
  | fuel + 1, read, b, c =>
    if c.atDocumentMarker || c.rest.head? == some '\x23' then some (⟨read.reverse, b.isNewLine⟩, c)
    else do
      let w ← plainWord inFlow c.rest
      let c := c.advance w.length
      let (read, b) := if w.isEmpty then (read, b) else ((b.folded ++ w).reverse ++ read, .nothing)
      if c.rest.head?.any fun a => isGap a || isBreak a then
        let (b, c) ← between margin c.fuel b c
        if !inFlow && c.column < margin then some (⟨read.reverse, b.isNewLine⟩, c)
        else plainWords inFlow margin fuel read b c
      else some (⟨read.reverse, b.isNewLine⟩, c)

/-- Reads a plain text. -/
def plain (inFlow : Bool) (margin : Nat) : Scan PlainText := fun c =>
  plainWords inFlow margin c.fuel [] .nothing c

/-! ### Quoted text -/

/-- How a word of a quoted text ends. -/
inductive WordEnd where
  /-- At the closing quotation mark. -/
  | closed
  /-- At blanks or a line break. -/
  | unfinished
  /-- At a backslash that ends the line. -/
  | continued
deriving DecidableEq, Repr

/-- Reads a word of a text in single quotation marks, in which they are written twice. -/
def singleWord : Nat → List Char → Scan (List Char × WordEnd)
  | 0, _, _ => none
  | fuel + 1, read, c =>
    match c.rest with
    | '\'' :: '\'' :: _ => singleWord fuel ('\'' :: read) (c.advance 2)
    | '\'' :: _ => some ((read.reverse, .closed), c.advance 1)
    | a :: _ =>
      if isGap a || isBreak a then some ((read.reverse, .unfinished), c)
      else singleWord fuel (a :: read) (c.advance 1)
    | [] => some ((read.reverse, .unfinished), c)

/-- The character that a letter stands for after a backslash. -/
def escapeOf? (c : Char) : Option Char :=
  ([('0', '\x00'), ('a', '\x07'), ('b', '\x08'), ('t', '\t'), ('\t', '\t'), ('n', '\n'),
    ('v', '\x0b'), ('f', '\x0c'), ('r', '\r'), ('e', '\x1b'), (' ', ' '), ('"', '"'), ('/', '/'),
    ('\\', '\\'), ('N', '\x85'), ('_', '\xa0'), ('L', '\u2028'), ('P', '\u2029')] :
    List (Char × Char)).lookup c

/-- The number of hexadecimal digits that follow a letter after a backslash. -/
def escapeLength? (c : Char) : Option Nat :=
  ([('x', 2), ('u', 4), ('U', 8)] : List (Char × Nat)).lookup c

/-- The character with a code point, if there is one. -/
def charOf? (n : Nat) : Option Char := if n.isValidChar then some (Char.ofNat n) else none

/-- Reads what follows a backslash. -/
def escaped : Scan Char := fun c => do
  let a ← c.rest.head?
  match escapeLength? a with
  | some n =>
    let ds := (c.rest.drop 1).take n
    if ds.length < n then none
    else some (← charOf? (← hexNumber? ds), c.advance (n + 1))
  | none => some (← escapeOf? a, c.advance 1)

/-- Reads a word of a text in double quotation marks. -/
def doubleWord : Nat → List Char → Scan (List Char × WordEnd)
  | 0, _, _ => none
  | fuel + 1, read, c =>
    match c.rest with
    | '"' :: _ => some ((read.reverse, .closed), c.advance 1)
    | '\\' :: _ =>
      match (c.advance 1).takeBreak? with
      | some (_, c) => some ((read.reverse, .continued), c)
      | none => do
        let (a, c) ← escaped (c.advance 1)
        doubleWord fuel (a :: read) c
    | a :: _ =>
      if isGap a || isBreak a then some ((read.reverse, .unfinished), c)
      else doubleWord fuel (a :: read) (c.advance 1)
    | [] => some ((read.reverse, .unfinished), c)

/-- Reads the words of a quoted text up to the closing mark, after those in `read`, which stand in
reverse. -/
def quotedWords (word : Scan (List Char × WordEnd)) : Nat → List Char → Scan (List Char)
  | 0, _, _ => none
  | fuel + 1, read, c =>
    if c.atDocumentMarker || c.rest.isEmpty then none
    else do
      let ((w, ending), c) ← word c
      match ending with
      | .closed => some (read.reverse ++ w, c)
      | _ =>
        let b := if ending = .continued then Between.continuedLine else .nothing
        if b.continued && c.rest.head? = some '"' then some (read.reverse ++ w, c.advance 1)
        else
          let (b, c) ← between 0 c.fuel b c
          quotedWords word fuel ((w ++ b.folded).reverse ++ read) c

/-- Reads a text in single quotation marks, after the first. -/
def singleQuoted : Scan (List Char) := fun c =>
  quotedWords (singleWord c.fuel []) c.fuel [] c

/-- Reads a text in double quotation marks, after the first. -/
def doubleQuoted : Scan (List Char) := fun c =>
  quotedWords (doubleWord c.fuel []) c.fuel [] c

end MoveRating.Yaml
