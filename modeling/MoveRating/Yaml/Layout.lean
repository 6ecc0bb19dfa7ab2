import MoveRating.Yaml.Token

/-!
# Indentation and keys

Tokens follow from characters, from the indentation of lines, and from colons: a colon makes a key
of what stands in front of it on its line. A `Layout` keeps what is needed for that while a text is
read.

* Until the colon is met or has become impossible, the place of the key is held by a `Candidate`,
  one for each list or record in brackets that is open.
* `tokens` reads a text. If it breaks off, the tokens still count that were there before the last
  attempt to read one, but only up to the first key that was undecided then.
-/

namespace MoveRating.Yaml

/-- A place that will be a key if a colon follows. -/
structure Candidate where
  /-- A colon must follow. -/
  required : Bool
  /-- The number of tokens in front of it. -/
  token : Nat
  /-- The number of bytes in front of it. -/
  index : Nat
  /-- The line. -/
  line : Nat
  /-- The column. -/
  column : Nat
deriving DecidableEq, Repr

/-- The state of a reader of tokens. -/
structure Layout where
  /-- The place in the text. -/
  cursor : Cursor
  /-- The tokens read, the latest in front. -/
  read : List Token
  /-- The number of tokens read. -/
  count : Nat
  /-- The indentation of the innermost list or record, -1 outside of all. -/
  indent : Int
  /-- The indentations around it. -/
  outer : List Int
  /-- A key may begin here. -/
  keyAllowed : Bool
  /-- The candidate of each open bracket, the innermost in front, and last the one outside. -/
  candidates : List (Option Candidate)
  /-- The text has been read to its end. -/
  ended : Bool
  /-- Characters follow on the text that cannot be read. -/
  cutOff : Bool

namespace Layout

/-- The start of a text. -/
def start (text : List Char) (cutOff : Bool) : Layout :=
  ⟨.start text, [.streamStart], 1, -1, [], true, [none], false, cutOff⟩

/-- The place is in brackets. -/
def inFlow (l : Layout) : Bool := !l.candidates.tail.isEmpty

/-- With one more token. -/
def push (l : Layout) (t : Token) : Layout := { l with read := t :: l.read, count := l.count + 1 }

/-- With a token put in after the first `n`. -/
def insert (l : Layout) (n : Nat) (t : Token) : Layout :=
  let after := l.count - n
  { l with read := l.read.take after ++ t :: l.read.drop after, count := l.count + 1 }

/-- At another place. -/
def at_ (l : Layout) (c : Cursor) : Layout := { l with cursor := c }

/-- With a token of `n` characters. -/
def take (l : Layout) (n : Nat) (t : Token) : Layout := (l.at_ (l.cursor.advance n)).push t

/-! ### Candidates -/

/-- No colon can follow any more at a place: the line has ended, or it is too long. -/
def isStale (c : Cursor) (k : Candidate) : Bool :=
  decide (k.line < c.line) || decide (k.index + 1024 < c.index)

/-- Without the candidates to which no colon can follow any more, unless one must. -/
def dropStale? (l : Layout) : Option Layout :=
  let stale (k : Candidate) : Bool := isStale l.cursor k
  if l.candidates.any fun k => k.any fun k => stale k && k.required then none
  else some { l with candidates := l.candidates.map fun k => k.filter fun k => !stale k }

/-- Without the innermost candidate, unless a colon must follow it. -/
def dropCandidate? (l : Layout) : Option Layout :=
  match l.candidates with
  | [] => some l
  | k :: ks => if k.any (·.required) then none else some { l with candidates := none :: ks }

/-- With a candidate at this place, if a key may begin here. -/
def addCandidate? (l : Layout) : Option Layout :=
  if l.keyAllowed then do
    let l ← l.dropCandidate?
    let c := l.cursor
    let required := !l.inFlow && l.indent == c.column
    let k : Candidate := ⟨required, l.count, c.index, c.line, c.column⟩
    some { l with candidates := some k :: l.candidates.tail }
  else some l

/-! ### Indentation -/

/-- Begins a list or record at a column, if it lies further in; `place` is where its token goes. -/
def indentTo (l : Layout) (column : Nat) (place : Nat) (t : Token) : Layout :=
  if !l.inFlow && decide (l.indent < column) then
    { l.insert place t with indent := column, outer := l.indent :: l.outer }
  else l

/-- Ends the lists and records that lie further in than a column, which are at most those given. -/
def endBlocks (l : Layout) (column : Int) : List Int → Layout
  | [] => l
  | next :: rest =>
    if column < l.indent then
      endBlocks { l.push .blockEnd with indent := next, outer := rest } column rest
    else l

/-- Ends the lists and records that lie further in than a column. -/
def dedentTo (l : Layout) (column : Int) : Layout :=
  if l.inFlow then l else endBlocks l column l.outer

/-! ### Gaps -/

/-- Skips blanks, comments and line breaks. A byte order mark may stand at the start of a line, and
after a line break outside of brackets a key may begin. -/
def skipGaps : Nat → Layout → Layout
  | 0, l => l
  | fuel + 1, l =>
    let c := if l.cursor.column = 0 ∧ l.cursor.rest.head? = some '\ufeff' then l.cursor.advance 1
      else l.cursor
    let tabs := l.inFlow || !l.keyAllowed
    let c := (c.skipWhile fun a => a == ' ' || (tabs && a == '\t')).skipComment
    match c.takeBreak? with
    | some (_, c) => skipGaps fuel { l with cursor := c, keyAllowed := !l.inFlow || l.keyAllowed }
    | none => l.at_ c

/-! ### Tokens -/

/-- Ends the text, and with it the last line. -/
def endText? (l : Layout) : Option Layout := do
  let l := if l.cursor.column = 0 then l else l.at_ (l.cursor.nextLine 0)
  let l ← (l.dedentTo (-1)).dropCandidate?
  some { l.push .streamEnd with keyAllowed := false, ended := true }

/-- Reads a directive. -/
def takeDirective? (l : Layout) : Option Layout := do
  let l ← (l.dedentTo (-1)).dropCandidate?
  let (d, c) ← directive (l.cursor.advance 1)
  some { (l.at_ c).push (.directive d) with keyAllowed := false }

/-- Reads a marker of a document. -/
def takeMarker? (l : Layout) (t : Token) : Option Layout := do
  let l ← (l.dedentTo (-1)).dropCandidate?
  some { l.take 3 t with keyAllowed := false }

/-- Opens a bracket. -/
def openFlow? (l : Layout) (t : Token) : Option Layout := do
  let l ← l.addCandidate?
  some { l.take 1 t with keyAllowed := true, candidates := none :: l.candidates }

/-- Closes a bracket. -/
def closeFlow? (l : Layout) (t : Token) : Option Layout := do
  let l ← l.dropCandidate?
  let candidates := if l.inFlow then l.candidates.tail else l.candidates
  some { l.take 1 t with keyAllowed := false, candidates }

/-- Reads a comma. -/
def takeComma? (l : Layout) : Option Layout := do
  let l ← l.dropCandidate?
  some { l.take 1 .flowEntry with keyAllowed := true }

/-- Reads the hyphen in front of an element. -/
def takeHyphen? (l : Layout) : Option Layout := do
  if !l.inFlow && !l.keyAllowed then none
  else
    let l ← (l.indentTo l.cursor.column l.count .blockListStart).dropCandidate?
    some { l.take 1 .blockEntry with keyAllowed := true }

/-- Reads the question mark in front of a key. -/
def takeQuestion? (l : Layout) : Option Layout := do
  if !l.inFlow && !l.keyAllowed then none
  else
    let l ← (l.indentTo l.cursor.column l.count .blockRecordStart).dropCandidate?
    some { l.take 1 .key with keyAllowed := !l.inFlow }

/-- Reads a colon, and makes a key of the innermost candidate. -/
def takeColon? (l : Layout) : Option Layout :=
  match l.candidates with
  | some k :: ks =>
    let l := (l.insert k.token .key).indentTo k.column k.token .blockRecordStart
    some { l.take 1 .value with keyAllowed := false, candidates := none :: ks }
  | _ =>
    if !l.inFlow && !l.keyAllowed then none
    else
      let l := l.indentTo l.cursor.column l.count .blockRecordStart
      some { l.take 1 .value with keyAllowed := !l.inFlow }

/-- Reads a token that may be a key or part of one. -/
def takeWord? (l : Layout) (scan : Scan Token) : Option Layout := do
  let l ← l.addCandidate?
  let (t, c) ← scan l.cursor
  some { (l.at_ c).push t with keyAllowed := false }

/-- Reads a plain scalar. -/
def takePlain? (l : Layout) : Option Layout := do
  let l ← l.addCandidate?
  let (p, c) ← plain l.inFlow (l.indent + 1).toNat l.cursor
  some { (l.at_ c).push (.scalar .plain p.text) with keyAllowed := p.newLine }

/-- Reads a block of text. -/
def takeBlock? (l : Layout) (style : Style) : Option Layout := do
  let l ← l.dropCandidate?
  let (text, c) ← block (style == .literal) l.indent (l.cursor.advance 1)
  some { (l.at_ c).push (.scalar style text) with keyAllowed := true }

/-- A scan that begins after one character and makes a token. -/
def afterMark {α : Type} (make : α → Token) (scan : Scan α) : Scan Token := fun c =>
  (scan (c.advance 1)).map fun (a, c) => (make a, c)

/-- A plain scalar may begin with these characters. -/
def beginsPlain (inFlow : Bool) : List Char → Bool
  | [] => false
  | a :: rest =>
    !(isGap a || isBreak a || "-?:,[]\x7b\x7d#&*!|>'\"%@\x60".toList.contains a) ||
      (a == '-' && !rest.head?.any isGap) ||
      (!inFlow && (a == '?' || a == ':') && !atGap rest)

/-- Reads a token that begins with the given character and does not mark a document. -/
def takeToken? (l : Layout) (a : Char) (rest : List Char) : Option Layout :=
  let alone := atGap rest
  match a with
  | '[' => l.openFlow? .flowListStart
  | '\x7b' => l.openFlow? .flowRecordStart
  | ']' => l.closeFlow? .flowListEnd
  | '\x7d' => l.closeFlow? .flowRecordEnd
  | ',' => l.takeComma?
  | '*' => l.takeWord? (afterMark .alias anchorName)
  | '&' => l.takeWord? (afterMark .anchor anchorName)
  | '!' => l.takeWord? fun c => (tag l.inFlow c).map fun (t, c) => (.tag t, c)
  | '\'' => l.takeWord? (afterMark (.scalar .quoted) singleQuoted)
  | '"' => l.takeWord? (afterMark (.scalar .quoted) doubleQuoted)
  | a =>
    if a = '-' ∧ alone then l.takeHyphen?
    else if a = '?' ∧ (l.inFlow ∨ alone) then l.takeQuestion?
    else if a = ':' ∧ (l.inFlow ∨ alone) then l.takeColon?
    else if a = '|' ∧ ¬l.inFlow then l.takeBlock? .literal
    else if a = '>' ∧ ¬l.inFlow then l.takeBlock? .folded
    else if beginsPlain l.inFlow (a :: rest) then l.takePlain?
    else none

/-- The layout, unless fewer than `n` characters are left and what follows them cannot be read. -/
def withAhead? (l : Layout) (n : Nat) : Option Layout :=
  if l.cutOff && (l.cursor.rest.take n).length < n then none else some l

/-- Reads what stands at a place after all gaps. -/
def take? (l : Layout) : Option Layout :=
  match l.cursor.rest with
  | [] => l.endText?
  | a :: rest =>
    if l.cursor.column = 0 ∧ a = '%' then l.takeDirective?
    else if l.cursor.atMarker ['-', '-', '-'] then l.takeMarker? .documentStart
    else if l.cursor.atMarker ['.', '.', '.'] then l.takeMarker? .documentEnd
    else l.takeToken? a rest

/-- Reads the next tokens. A marker of a document takes four characters to tell, and the end of
most tokens one. -/
def step? (l : Layout) : Option Layout := do
  let l ← (skipGaps l.cursor.fuel l).dropStale?
  let l ← (l.dedentTo l.cursor.column).withAhead? 4
  let l ← l.take?
  (← l.withAhead? 1).dropStale?

/-- The tokens that count if the text breaks off in the next step. -/
def decided (l : Layout) : List Token :=
  let pending := l.candidates.filterMap fun k => k.map Candidate.token
  l.read.reverse.take (pending.foldl min l.count)

/-- Reads tokens to the end of the text, or as far as they go. -/
def run : Nat → Layout → List Token
  | 0, l => l.decided
  | fuel + 1, l =>
    if l.ended then l.read.reverse
    else
      match l.step? with
      | some l => run fuel l
      | none => l.decided

end Layout

/-! ### Portions -/

/-- The number of bytes of a text that are looked at together. -/
def portionSize : Nat := 16384

/-- The portions of a text in front of the first with a character that may not stand in it, and
whether there is one. `done` and `portion` are the portions before and the one that is being read,
in reverse. -/
def portions (done portion : List Char) (bytes : Nat) : List Char → List Char × Bool
  | [] => ((portion ++ done).reverse, false)
  | a :: rest =>
    let full : Bool := decide (portionSize < bytes + a.utf8Size)
    let done := if full then portion ++ done else done
    if !isAllowed a then (done.reverse, true)
    else if full then portions done [a] a.utf8Size rest
    else portions done (a :: portion) (bytes + a.utf8Size) rest

/-- The tokens of a text. The last of them is the end of the text, unless it breaks off. -/
def tokens (text : List Char) : List Token :=
  let (text, cutOff) := portions [] [] 0 text
  Layout.run (2 * text.length + 4) (.start text cutOff)

end MoveRating.Yaml
