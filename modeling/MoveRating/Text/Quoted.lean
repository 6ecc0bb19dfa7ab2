import MoveRating.Text.Printable
import MoveRating.Numeral

/-!
# Text in reports

`quoted` is a text as a report shows it: between quotation marks, with escapes for quotation marks,
backslashes and whatever cannot be printed.
-/

namespace MoveRating

/-- A character by its code point, as in `\u{a0}`. -/
def codePointChars (c : Char) : List Char :=
  ['\\', 'u', '\x7b'] ++ Nat.toDigits 16 c.toNat ++ ['\x7d']

/-- A character as a report shows it. -/
def shownChar (c : Char) : List Char :=
  if c = '\x00' then ['\\', '0']
  else if c = '\t' then ['\\', 't']
  else if c = '\n' then ['\\', 'n']
  else if c = '\r' then ['\\', 'r']
  else if c = '"' ∨ c = '\\' then ['\\', c]
  else if isPrintable c then [c]
  else codePointChars c

/-- A text as a report shows it. -/
def quoted (s : String) : String := String.ofList ('"' :: s.toList.flatMap shownChar ++ ['"'])

end MoveRating
