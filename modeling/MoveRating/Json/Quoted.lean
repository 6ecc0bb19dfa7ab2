import MoveRating.Json.Symbol

/-!
# Quoted text

* `quote` writes a text between quotation marks. Quotation marks, backslashes and control
  characters are escaped, and nothing else is.
* `textBody` reads the text after an opening quotation mark; any escape is understood.
* `skipTextBody` passes over it. It wants every escape to be known, but not that the escapes and
  bytes make up characters.
-/

namespace MoveRating.Json

/-! ### Writing -/

/-- A hexadecimal digit, in lower case. -/
def hexDigit (n : Nat) : Char := Nat.digitChar (n % 16)

/-- A character as it stands between quotation marks. -/
def escapeChar (c : Char) : List Char :=
  if c = '"' then ['\\', '"']
  else if c = '\\' then ['\\', '\\']
  else if c = '\x08' then ['\\', 'b']
  else if c = '\t' then ['\\', 't']
  else if c = '\n' then ['\\', 'n']
  else if c = '\x0c' then ['\\', 'f']
  else if c = '\r' then ['\\', 'r']
  else if c.toNat < 0x20 then ['\\', 'u', '0', '0', hexDigit (c.toNat / 16), hexDigit c.toNat]
  else [c]

/-- A text between quotation marks. -/
def quote (s : String) : List Char := '"' :: s.toList.flatMap escapeChar ++ ['"']

/-! ### Reading -/

/-- The value of a hexadecimal digit of either case. -/
def hexValue? (c : Char) : Option Nat :=
  if '0' ≤ c ∧ c ≤ '9' then some (c.toNat - '0'.toNat)
  else if 'a' ≤ c ∧ c ≤ 'f' then some (c.toNat - 'a'.toNat + 10)
  else if 'A' ≤ c ∧ c ≤ 'F' then some (c.toNat - 'A'.toNat + 10)
  else none

/-- The number of bytes of a symbol. -/
def symbolSize : Symbol → Nat
  | some c => c.utf8Size
  | none => 1

/-- Reads the four hexadecimal digits of an escape. -/
def hexUnit : Reader Nat := fun s =>
  if (s.take 4).foldl (fun n a => n + symbolSize a) 0 < 4 then .error .truncated
  else
    match (s.take 4).mapM fun a => a.bind hexValue? with
    | some ds => .ok (ds.foldl (fun n d => n * 16 + d) 0, s.drop 4)
    | none => .error .malformed

/-- The character that a letter stands for after a backslash. -/
def escapeOf? (c : Char) : Option Char :=
  if c = '"' ∨ c = '\\' ∨ c = '/' then some c
  else if c = 'b' then some '\x08'
  else if c = 'f' then some '\x0c'
  else if c = 'n' then some '\n'
  else if c = 'r' then some '\r'
  else if c = 't' then some '\t'
  else none

/-- Reads the second half of an escaped pair, after its first half `lead`. -/
def trailingUnit (lead : Nat) : Reader Char := fun s => do
  let ((), s) ← word ['\\', 'u'] s
  let (trail, s) ← hexUnit s
  if 0xDC00 ≤ trail ∧ trail ≤ 0xDFFF then
    .ok (Char.ofNat (0x10000 + (lead - 0xD800) * 0x400 + (trail - 0xDC00)), s)
  else .error .malformed

/-- Reads what follows a backslash. -/
def escape : Reader Char
  | [] => .error .truncated
  | none :: _ => .error .malformed
  | some c :: s =>
    if c = 'u' then do
      let (unit, s) ← hexUnit s
      if 0xDC00 ≤ unit ∧ unit ≤ 0xDFFF then .error .malformed
      else if 0xD800 ≤ unit ∧ unit ≤ 0xDBFF then trailingUnit unit s
      else .ok (Char.ofNat unit, s)
    else
      match escapeOf? c with
      | some e => .ok (e, s)
      | none => .error .malformed

/-- The symbol is a control character. -/
def isControl : Symbol → Bool
  | some c => decide (c.toNat < 0x20)
  | none => false

/-- Reads the symbols up to a quotation mark, after those in `read`, which stand in reverse. -/
def textSymbols : Nat → List Symbol → Reader (List Symbol)
  | 0, _, _ => .error .truncated
  | _, _, [] => .error .truncated
  | fuel + 1, read, a :: s =>
    if a = some '"' then .ok (read.reverse, s)
    else if a = some '\\' then do
      let (c, s) ← escape s
      textSymbols fuel (some c :: read) s
    else if isControl a then .error .malformed
    else textSymbols fuel (a :: read) s

/-- Reads a text after its opening quotation mark. -/
def textBody : Reader String := fun s => do
  let (symbols, rest) ← textSymbols (s.length + 1) [] s
  match symbols.mapM id with
  | some cs => .ok (String.ofList cs, rest)
  | none => .error .malformed

/-- Passes over what follows a backslash. -/
def skipEscape : Reader Unit
  | [] => .error .truncated
  | none :: _ => .error .malformed
  | some c :: s =>
    if c = 'u' then (hexUnit s).map fun (_, s) => ((), s)
    else if (escapeOf? c).isSome then .ok ((), s)
    else .error .malformed

/-- Passes over the symbols up to a quotation mark. -/
def skipSymbols : Nat → Reader Unit
  | 0, _ => .error .truncated
  | _, [] => .error .truncated
  | fuel + 1, a :: s =>
    if a = some '"' then .ok ((), s)
    else if a = some '\\' then do
      let ((), s) ← skipEscape s
      skipSymbols fuel s
    else if isControl a then .error .malformed
    else skipSymbols fuel s

/-- Passes over a text after its opening quotation mark. -/
def skipTextBody : Reader Unit := fun s => skipSymbols (s.length + 1) s

end MoveRating.Json
