import MoveRating.Yaml.Cursor

/-!
# Blocks of text

A block is a text of whole lines, all of them indented alike. In a literal block the line breaks
are kept; in a folded one those between lines that begin without a blank are folded.

* `Chomping` says which of the breaks at the end belong to the text.
* `block` reads a block after its indicator.
-/

namespace MoveRating.Yaml

/-- Which of the breaks at the end of a block belong to it. -/
inductive Chomping where
  /-- None. -/
  | strip
  /-- The first. -/
  | clip
  /-- All. -/
  | keep
deriving DecidableEq, Repr

/-- Reads an indicator of chomping, if there is one. -/
def chomping? (c : Cursor) : Option Chomping × Cursor :=
  match c.rest with
  | '+' :: _ => (some .keep, c.advance 1)
  | '-' :: _ => (some .strip, c.advance 1)
  | _ => (none, c)

/-- Reads an indicator of indentation, if there is one; it is a digit, but not zero. -/
def indentation? : Scan (Option Nat) := fun c =>
  match c.rest with
  | a :: _ =>
    if a = '0' then none
    else if a.isDigit then some (some (a.toNat - '0'.toNat), c.advance 1)
    else some (none, c)
  | [] => some (none, c)

/-- Reads the two indicators of a block in either order. -/
def blockIndicators : Scan (Chomping × Option Nat) := fun c => do
  match chomping? c with
  | (some chomping, c) =>
    let (indentation, c) ← indentation? c
    some ((chomping, indentation), c)
  | (none, c) =>
    let (indentation, c) ← indentation? c
    if indentation.isSome then
      let (chomping, c) := chomping? c
      some ((chomping.getD .clip, indentation), c)
    else some ((.clip, indentation), c)

/-- Reads empty lines up to the next line of a block. The lines are indented by `indent`, or by as
much as the widest of them if that is zero; `widest` is what has been seen of it. -/
def emptyLines (indent : Nat) : Nat → Nat → List Char → Scan (List Char × Nat)
  | 0, _, _, _ => none
  | fuel + 1, widest, breaks, c =>
    let within (c : Cursor) : Bool := indent == 0 || c.column < indent
    let spaces := (c.rest.takeWhile (· == ' ')).length
    let c := c.advance (if indent = 0 then spaces else min spaces (indent - c.column))
    let widest := max widest c.column
    if within c && c.rest.head? == some '\t' then none
    else
      match c.takeBreak? with
      | some (b, c) => emptyLines indent fuel widest (breaks ++ [b]) c
      | none => some ((breaks, widest), c)

/-- A block as far as it has been read. -/
structure Lines where
  /-- The text in reverse. -/
  read : List Char
  /-- The break after its last line. -/
  leading : List Char
  /-- The breaks of the empty lines after that. -/
  trailing : List Char
  /-- The last line begins with a blank. -/
  indented : Bool

/-- The text in reverse with what counts of the breaks before its next line, which begins with a
blank if `indented`. -/
def Lines.join (l : Lines) (literal indented : Bool) : List Char :=
  let breaks :=
    if !literal && l.leading == ['\n'] && !l.indented && !indented then
      if l.trailing.isEmpty then [' '] else l.trailing
    else l.leading ++ l.trailing
  breaks.reverse ++ l.read

/-- Reads the lines of a block. -/
def blockLines (literal : Bool) (indent : Nat) : Nat → Lines → Scan Lines
  | 0, _, _ => none
  | fuel + 1, l, c =>
    if c.column = indent ∧ ¬c.rest.isEmpty then do
      let indented := c.rest.head?.any isGap
      let before := l.join literal indented
      let (line, c) := c.takeWhile fun a => !isBreak a
      let (leading, c) := match c.takeBreak? with
        | some (b, c) => ([b], c)
        | none => ([], c)
      let ((trailing, _), c) ← emptyLines indent c.fuel 0 [] c
      blockLines literal indent fuel ⟨line.reverse ++ before, leading, trailing, indented⟩ c
    else some (l, c)

/-- A block with what belongs to its end. -/
def Lines.chomp (l : Lines) : Chomping → List Char
  | .strip => l.read.reverse
  | .clip => l.read.reverse ++ l.leading
  | .keep => l.read.reverse ++ l.leading ++ l.trailing

/-- Reads a block after its indicator. `parent` is the indentation around it, -1 if there is
none. -/
def block (literal : Bool) (parent : Int) : Scan (List Char) := fun c => do
  let ((chomping, indentation), c) ← blockIndicators c
  let c := (c.skipWhile isGap).skipComment
  if !atBreak c.rest then none
  else
    let c := match c.takeBreak? with
      | some (_, c) => c
      | none => c
    let given : Nat := match indentation with
      | some n => parent.toNat + n
      | none => 0
    let ((trailing, widest), c) ← emptyLines given c.fuel 0 [] c
    let indent := if given = 0 then max widest (max (parent + 1).toNat 1) else given
    let (l, c) ← blockLines literal indent c.fuel ⟨[], [], trailing, false⟩ c
    some (l.chomp chomping, c)

end MoveRating.Yaml
