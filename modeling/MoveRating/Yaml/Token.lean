import MoveRating.Yaml.Folded
import MoveRating.Yaml.Block

/-!
# Tokens

The tokens of a YAML text. Indentation shows in them as the start and end of lists and records,
and a key in front of a colon as a token of its own.
-/

namespace MoveRating.Yaml

/-- How a scalar is written. -/
inductive Style where
  | plain
  | quoted
  | literal
  | folded
deriving DecidableEq, Repr

/-- A token. -/
inductive Token where
  /-- The start of the text. -/
  | streamStart
  /-- The end of the text. -/
  | streamEnd
  /-- A line that begins with a percent sign. -/
  | directive (d : Directive)
  /-- Three hyphens. -/
  | documentStart
  /-- Three points. -/
  | documentEnd
  /-- The start of a list by indentation. -/
  | blockListStart
  /-- The start of a record by indentation. -/
  | blockRecordStart
  /-- The end of either. -/
  | blockEnd
  /-- An opening bracket. -/
  | flowListStart
  /-- A closing bracket. -/
  | flowListEnd
  /-- An opening brace. -/
  | flowRecordStart
  /-- A closing brace. -/
  | flowRecordEnd
  /-- A hyphen in front of an element. -/
  | blockEntry
  /-- A comma. -/
  | flowEntry
  /-- The place in front of a key. -/
  | key
  /-- The colon in front of a value. -/
  | value
  /-- A reference to an anchor. -/
  | alias (name : List Char)
  /-- An anchor. -/
  | anchor (name : List Char)
  /-- A tag. -/
  | tag (t : Tag)
  /-- A scalar. -/
  | scalar (style : Style) (text : List Char)
deriving DecidableEq, Repr

end MoveRating.Yaml
