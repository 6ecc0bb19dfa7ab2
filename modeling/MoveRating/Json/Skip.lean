import MoveRating.Json.Quoted
import MoveRating.Json.Number

/-!
# Passing over values

`pass` reads over one value of any kind. A `Care` says how closely it looks at texts and numbers,
and how deep lists and records may lie in each other:

* `Care.loose` for members that nobody asks for,
* `Care.strict` for members that are kept aside.
-/

namespace MoveRating.Json

/-- How closely values are looked at that are passed over. -/
structure Care where
  /-- Passes over a text after its opening quotation mark. -/
  text : Reader Unit
  /-- Passes over a number. -/
  number : Reader Unit
  /-- The greatest number of lists and records around a value, if there is one. -/
  depth? : Option Nat

namespace Care

/-- Texts need not be made of characters, numbers may be of any size, and nothing is too deep. -/
def loose : Care := ⟨skipTextBody, skipNumber, none⟩

/-- Texts and numbers are read, and at most 126 lists and records lie around a value. -/
def strict : Care :=
  ⟨fun s => (textBody s).map fun (_, s) => ((), s),
    fun s => (Json.number s).map fun (_, s) => ((), s), some 126⟩

end Care

/-- What is open around a value: a list or a record. -/
inductive Enclosure where
  | list
  | record
deriving DecidableEq, Repr

/-- No further list or record may be opened within those that are open. -/
def Care.forbidsMore (care : Care) (opened : List Enclosure) : Bool :=
  care.depth?.any fun limit => decide (limit ≤ opened.length)

/-- The closing symbol. -/
def Enclosure.close : Enclosure → Symbol
  | list => some ']'
  | record => some '\x7d'

/-- Where a reader stands that passes over a value. -/
inductive Place where
  /-- Before a value. -/
  | value
  /-- After an opening bracket. -/
  | opened
  /-- Before an element or the name of a member. -/
  | element
  /-- After a value. -/
  | after
deriving DecidableEq, Repr

/-- The values that are words. -/
def literal : Symbol → Option (List Char)
  | some 'n' => some "null".toList
  | some 't' => some "true".toList
  | some 'f' => some "false".toList
  | _ => none

/-- The symbol begins a number. -/
def beginsNumber (a : Symbol) : Bool := a == some '-' || isDigitSymbol a

/-- Passes over a value that is neither a list nor a record. -/
def passSimple (care : Care) : Reader Unit
  | [] => .error .truncated
  | a :: s =>
    if a = some '"' then care.text s
    else if beginsNumber a then care.number (a :: s)
    else
      match literal a with
      | some letters => word letters (a :: s)
      | none => .error .malformed

/-- Passes over the name of a member and its colon. -/
def passName (care : Care) : Reader Unit
  | [] => .error .truncated
  | a :: s =>
    if a = some '"' then do
      let ((), s) ← care.text s
      colon s
    else .error .malformed

/-- Passes on from a place with the given lists and records open around it. -/
def passFrom (care : Care) : Nat → Place → List Enclosure → Reader Unit
  | 0, _, _, _ => .error .truncated
  | _ + 1, .after, [], s => .ok ((), s)
  | fuel + 1, .after, e :: outer, s =>
    match skipGaps s with
    | [] => .error .truncated
    | a :: rest =>
      if a = some ',' then passFrom care fuel .element (e :: outer) rest
      else if a = e.close then passFrom care fuel .after outer rest
      else .error .malformed
  | fuel + 1, .opened, opened, s =>
    match skipGaps s with
    | [] => .error .truncated
    | a :: rest =>
      if opened.head?.map Enclosure.close = some a then passFrom care fuel .after opened.tail rest
      else passFrom care fuel .element opened (a :: rest)
  | fuel + 1, .element, opened, s =>
    if opened.head? = some .record then do
      let ((), s) ← passName care (skipGaps s)
      passFrom care fuel .value opened s
    else passFrom care fuel .value opened s
  | fuel + 1, .value, opened, s =>
    match skipGaps s with
    | [] => .error .truncated
    | a :: rest =>
      if a = some '[' ∨ a = some '\x7b' then
        if care.forbidsMore opened then .error .malformed
        else passFrom care fuel .opened ((if a = some '[' then .list else .record) :: opened) rest
      else do
        let ((), s) ← passSimple care (a :: rest)
        passFrom care fuel .after opened s

/-- Passes over one value. -/
def pass (care : Care) : Reader Unit := fun s => passFrom care (4 * s.length + 4) .value [] s

end MoveRating.Json
