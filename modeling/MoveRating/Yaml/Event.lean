import MoveRating.Yaml.Token

/-!
# Events

The events of a YAML text are its structure in order: documents, the start and end of lists and
records, scalars, and references to anchors. A key without a value, and the like, has an empty
scalar in its place.

* A `Goal` is what the grammar expects next, and a `Machine` adds the goals that wait behind it and
  the tokens that are left.
* `Machine.step?` gives the next event. There is none if the tokens break off or do not fit.
* `events` gives all of them, with the end of the text as the last unless they break off.
-/

namespace MoveRating.Yaml

/-- The anchor and tag of a node. -/
structure Properties where
  /-- The anchor. -/
  anchor : Option (List Char)
  /-- The tag, without abbreviation. -/
  tag : Option TagText
deriving DecidableEq, Repr

/-- No anchor and no tag. -/
def Properties.none : Properties := ⟨Option.none, Option.none⟩

/-- A scalar as it is written. -/
structure Written where
  /-- The style. -/
  style : Style
  /-- The text. -/
  text : List Char
deriving DecidableEq, Repr

/-- Nothing, where a scalar may stand. -/
def Written.empty : Written := ⟨.plain, []⟩

/-- An event. -/
inductive Event where
  | streamStart
  | streamEnd
  | documentStart
  | documentEnd
  | alias (name : List Char)
  | scalar (p : Properties) (w : Written)
  | listStart (p : Properties)
  | listEnd
  | recordStart (p : Properties)
  | recordEnd
deriving DecidableEq, Repr

/-- What the grammar expects next. -/
inductive Goal where
  | stream
  /-- A document, which needs no marker. -/
  | firstDocument
  /-- A document after others. -/
  | laterDocument
  /-- What stands in a document after its marker. -/
  | content
  | documentEnd
  | node
  /-- An element or the end of a list by indentation; `first` if its start is still in front. -/
  | blockElement (first : Bool)
  /-- An element of a list that is indented like the key before it. -/
  | alignedElement
  /-- A key or the end of a record by indentation. -/
  | blockKey (first : Bool)
  | blockValue
  /-- An element or the end of a list in brackets. -/
  | flowElement (first : Bool)
  /-- The key of a record of one member among the elements of a list. -/
  | pairKey
  | pairValue
  | pairEnd
  /-- A key or the end of a record in braces. -/
  | flowKey (first : Bool)
  /-- The value after a key in braces; `bare` if there is none. -/
  | flowValue (bare : Bool)
deriving DecidableEq, Repr

/-- The state of a reader of events. -/
structure Machine where
  /-- The tokens left. -/
  tokens : List Token
  /-- What is expected next. -/
  goal : Goal
  /-- What is expected after that. -/
  waiting : List Goal
  /-- The tag handles and what they stand for. -/
  handles : List (List Char × TagText)

namespace Machine

/-- The handles that need no directive. -/
def standardHandles : List (List Char × TagText) :=
  [(['!'], .ofChars ['!']), (['!', '!'], .ofChars "tag:yaml.org,2002:".toList)]

/-- The start of a text. -/
def start (tokens : List Token) : Machine := ⟨tokens, .stream, [], standardHandles⟩

/-- Without the next token. -/
def skip (m : Machine) : Machine := { m with tokens := m.tokens.tail }

/-- With another goal. -/
def expect (m : Machine) (g : Goal) : Machine := { m with goal := g }

/-- With one more goal that waits. -/
def wait (m : Machine) (g : Goal) : Machine := { m with waiting := g :: m.waiting }

/-- Goes on with what waits. -/
def resume (m : Machine) : Machine :=
  { m with goal := m.waiting.headD .laterDocument, waiting := m.waiting.tail }

/-- An empty scalar, and then another goal. -/
def emptyThen (m : Machine) (g : Goal) : Option (Event × Machine) :=
  some (.scalar .none .empty, m.expect g)

/-! ### Documents -/

/-- Reads the directives in front of a document. -/
def directives? : List Token → Option Nat → List (List Char × TagText) →
    Option (List Token × List (List Char × TagText))
  | .directive (.version major minor) :: ts, seen, handles =>
    if seen.isSome || major != 1 || !(minor == 1 || minor == 2) then none
    else directives? ts (some minor) handles
  | .directive (.handle name text) :: ts, seen, handles =>
    if (handles.lookup name).isSome then none else directives? ts seen ((name, text) :: handles)
  | ts, _, handles => some (ts, handles)

/-- Starts a document with a marker. -/
def explicitDocument? (m : Machine) : Option (Event × Machine) := do
  let (tokens, handles) ← directives? m.tokens none []
  match tokens with
  | .documentStart :: tokens =>
    let handles := handles ++ standardHandles
    some (.documentStart, { m with tokens, handles, goal := .content }.wait .documentEnd)
  | _ => none

/-- Starts a document or ends the text. -/
def document? (m : Machine) (bare : Bool) : Option (Event × Machine) :=
  match m.tokens with
  | [] => none
  | .streamEnd :: _ => some (.streamEnd, m.skip)
  | t :: _ =>
    let marked := match t with
      | .directive _ | .documentStart => true
      | _ => false
    if bare && !marked then
      some (.documentStart, { m with goal := .node, handles := standardHandles }.wait .documentEnd)
    else m.explicitDocument?

/-! ### Nodes -/

/-- The full text of a tag. -/
def fullTag? (m : Machine) (t : Tag) : Option TagText :=
  if t.handle.isEmpty then some t.suffix else (m.handles.lookup t.handle).map (· ++ t.suffix)

/-- Reads the anchor and tag of a node, in either order. -/
def properties? (m : Machine) : Option (Properties × Machine) :=
  match m.tokens with
  | .anchor a :: .tag t :: ts | .tag t :: .anchor a :: ts =>
    (m.fullTag? t).map fun tag => (⟨some a, some tag⟩, { m with tokens := ts })
  | .anchor a :: ts => some (⟨some a, none⟩, { m with tokens := ts })
  | .tag t :: ts => (m.fullTag? t).map fun tag => (⟨none, some tag⟩, { m with tokens := ts })
  | _ => some (.none, m)

/-- A node of which there is nothing but an anchor or tag: an empty scalar. -/
def bareNode? (m : Machine) (p : Properties) : Option (Event × Machine) :=
  if p = .none then none else some (.scalar p .empty, m.resume)

/-- Reads a node. By indentation it may begin only if `block`, and a list that is indented like the
key before it only if `aligned`. -/
def node? (m : Machine) (block aligned : Bool) : Option (Event × Machine) :=
  match m.tokens with
  | .alias name :: _ => some (.alias name, m.skip.resume)
  | _ => do
    let (p, m) ← m.properties?
    match m.tokens with
    | [] => none
    | .blockEntry :: _ =>
      if aligned then some (.listStart p, m.expect .alignedElement) else m.bareNode? p
    | .scalar style text :: _ => some (.scalar p ⟨style, text⟩, m.skip.resume)
    | .flowListStart :: _ => some (.listStart p, m.expect (.flowElement true))
    | .flowRecordStart :: _ => some (.recordStart p, m.expect (.flowKey true))
    | .blockListStart :: _ =>
      if block then some (.listStart p, m.expect (.blockElement true)) else m.bareNode? p
    | .blockRecordStart :: _ =>
      if block then some (.recordStart p, m.expect (.blockKey true)) else m.bareNode? p
    | _ => m.bareNode? p

/-! ### Lists and records -/

/-- Reads an element or the end of a list by indentation. -/
def blockElement? (m : Machine) (first : Bool) : Option (Event × Machine) :=
  let m := if first then m.skip else m
  match m.tokens with
  | .blockEntry :: t :: _ =>
    let m := m.skip
    if t = .blockEntry ∨ t = .blockEnd then m.emptyThen (.blockElement false)
    else (m.wait (.blockElement false)).node? true false
  | .blockEnd :: _ => some (.listEnd, m.skip.resume)
  | _ => none

/-- Reads an element or the end of a list that is indented like the key before it. -/
def alignedElement? (m : Machine) : Option (Event × Machine) :=
  match m.tokens with
  | [] | [.blockEntry] => none
  | .blockEntry :: t :: _ =>
    let m := m.skip
    if t = .blockEntry ∨ t = .key ∨ t = .value ∨ t = .blockEnd then m.emptyThen .alignedElement
    else (m.wait .alignedElement).node? true false
  | _ => some (.listEnd, m.resume)

/-- Reads a key or the end of a record by indentation. -/
def blockKey? (m : Machine) (first : Bool) : Option (Event × Machine) :=
  let m := if first then m.skip else m
  match m.tokens with
  | .key :: t :: _ =>
    let m := m.skip
    if t = .key ∨ t = .value ∨ t = .blockEnd then m.emptyThen .blockValue
    else (m.wait .blockValue).node? true true
  | .blockEnd :: _ => some (.recordEnd, m.skip.resume)
  | _ => none

/-- Reads the value after a key. -/
def blockValue? (m : Machine) : Option (Event × Machine) :=
  match m.tokens with
  | [] | [.value] => none
  | .value :: t :: _ =>
    let m := m.skip
    if t = .key ∨ t = .value ∨ t = .blockEnd then m.emptyThen (.blockKey false)
    else (m.wait (.blockKey false)).node? true true
  | _ => m.emptyThen (.blockKey false)

/-- Without the comma in front of an element that is not the first, or without the bracket in
front of the first. -/
def separated? (m : Machine) (first : Bool) (close : Token) : Option Machine :=
  match m.tokens with
  | [] => none
  | t :: _ => if first || t = .flowEntry then some m.skip else if t = close then some m else none

/-- Reads an element or the end of a list in brackets. -/
def flowElement? (m : Machine) (first : Bool) : Option (Event × Machine) := do
  let m ← m.separated? first .flowListEnd
  match m.tokens with
  | [] => none
  | .flowListEnd :: _ => some (.listEnd, m.skip.resume)
  | .key :: _ => some (.recordStart .none, m.skip.expect .pairKey)
  | _ => (m.wait (.flowElement false)).node? false false

/-- Reads the key of a record of one member among the elements of a list. -/
def pairKey? (m : Machine) : Option (Event × Machine) :=
  match m.tokens with
  | [] => none
  | .value :: _ | .flowEntry :: _ | .flowListEnd :: _ => m.skip.emptyThen .pairValue
  | _ => (m.wait .pairValue).node? false false

/-- Reads the value of a record of one member among the elements of a list. -/
def pairValue? (m : Machine) : Option (Event × Machine) :=
  match m.tokens with
  | [] | [.value] => none
  | .value :: t :: _ =>
    if t = .flowEntry ∨ t = .flowListEnd then m.skip.emptyThen .pairEnd
    else (m.skip.wait .pairEnd).node? false false
  | _ => m.emptyThen .pairEnd

/-- Ends a record of one member among the elements of a list. -/
def pairEnd? (m : Machine) : Option (Event × Machine) :=
  if m.tokens.isEmpty then none else some (.recordEnd, m.expect (.flowElement false))

/-- Reads a key or the end of a record in braces. -/
def flowKey? (m : Machine) (first : Bool) : Option (Event × Machine) := do
  let m ← m.separated? first .flowRecordEnd
  match m.tokens with
  | [] | [.key] => none
  | .flowRecordEnd :: _ => some (.recordEnd, m.skip.resume)
  | .key :: t :: _ =>
    let m := m.skip
    if t = .value ∨ t = .flowEntry ∨ t = .flowRecordEnd then m.emptyThen (.flowValue false)
    else (m.wait (.flowValue false)).node? false false
  | _ => (m.wait (.flowValue true)).node? false false

/-- Reads the value after a key in braces. -/
def flowValue? (m : Machine) (bare : Bool) : Option (Event × Machine) :=
  match m.tokens with
  | [] => none
  | .value :: ts =>
    if bare then m.emptyThen (.flowKey false)
    else
      match ts with
      | [] => none
      | t :: _ =>
        if t = .flowEntry ∨ t = .flowRecordEnd then m.skip.emptyThen (.flowKey false)
        else (m.skip.wait (.flowKey false)).node? false false
  | _ => m.emptyThen (.flowKey false)

/-- Reads what is expected next. -/
def step? (m : Machine) : Option (Event × Machine) :=
  match m.goal with
  | .stream => if m.tokens.isEmpty then none else some (.streamStart, m.skip.expect .firstDocument)
  | .firstDocument => m.document? true
  | .laterDocument =>
    { m with tokens := m.tokens.dropWhile (· == Token.documentEnd) }.document? false
  | .content =>
    match m.tokens with
    | [] => none
    | .directive _ :: _ | .documentStart :: _ | .documentEnd :: _ | .streamEnd :: _ =>
      some (.scalar .none .empty, m.resume)
    | _ => m.node? true false
  | .documentEnd =>
    match m.tokens with
    | [] => none
    | .documentEnd :: _ => some (.documentEnd, m.skip.expect .laterDocument)
    | _ => some (.documentEnd, m.expect .laterDocument)
  | .node => m.node? true false
  | .blockElement first => m.blockElement? first
  | .alignedElement => m.alignedElement?
  | .blockKey first => m.blockKey? first
  | .blockValue => m.blockValue?
  | .flowElement first => m.flowElement? first
  | .pairKey => m.pairKey?
  | .pairValue => m.pairValue?
  | .pairEnd => m.pairEnd?
  | .flowKey first => m.flowKey? first
  | .flowValue bare => m.flowValue? bare

/-- The events up to the end of the text, or as far as they go. -/
def run : Nat → List Event → Machine → List Event
  | 0, read, _ => read.reverse
  | fuel + 1, read, m =>
    match m.step? with
    | none => read.reverse
    | some (.streamEnd, _) => (.streamEnd :: read).reverse
    | some (e, m) => run fuel (e :: read) m

end Machine

/-- The events that tokens make up. -/
def events (tokens : List Token) : List Event :=
  Machine.run (4 * tokens.length + 16) [] (.start tokens)

end MoveRating.Yaml
