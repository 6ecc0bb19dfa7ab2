import MoveRating.Yaml.Event
import MoveRating.Yaml.Layout

/-!
# Documents

A `Document` is what a text holds: the parts of its first document, in order, as far as they go.

* References to anchors are numbered, and `Document.target` are the parts that begin where one
  leads.
* `Document.isWhole` tells that the text holds this one document and nothing else.
-/

namespace MoveRating.Yaml

/-- A part of a document. -/
inductive Part where
  /-- A reference to an anchor, by its number. -/
  | alias (anchor : Nat)
  | scalar (tag : Option TagText) (w : Written)
  | listStart (tag : Option TagText)
  | listEnd
  | recordStart (tag : Option TagText)
  | recordEnd
deriving DecidableEq, Repr

/-- The first document of a text. -/
structure Document where
  /-- Its parts. -/
  parts : List Part
  /-- The number of its parts. -/
  size : Nat
  /-- The number of parts in front of each numbered anchor. -/
  anchors : List (Nat × Nat)
  /-- The text holds nothing else and does not break off. -/
  isWhole : Bool

namespace Document

/-- The parts that begin at an anchor. -/
def target (d : Document) (anchor : Nat) : List Part :=
  match d.anchors.lookup anchor with
  | some n => d.parts.drop n
  | none => []

/-- A document as far as it has been read. -/
structure Draft where
  /-- The parts, the latest in front. -/
  read : List Part
  /-- The number of parts in front of each numbered anchor, the latest in front. -/
  anchors : List (Nat × Nat)
  /-- The numbers of the anchors by name. -/
  names : List (List Char × Nat)

namespace Draft

/-- With an anchor at the next part. An anchor has the number of the names in use before it. -/
def mark (d : Draft) : Option (List Char) → Draft
  | none => d
  | some name =>
    let number := d.names.length
    { d with
      anchors := (number, d.read.length) :: d.anchors
      names := (name, number) :: d.names.filter fun entry => entry.1 != name }

/-- With one more part. -/
def push (d : Draft) (p : Part) : Draft := { d with read := p :: d.read }

/-- The document, as far as it goes. -/
def finish (d : Draft) (isWhole : Bool) : Document :=
  ⟨d.read.reverse, d.read.length, d.anchors, isWhole⟩

/-- Adds the parts of events up to the end of the document. -/
def complete (d : Draft) : List Event → Document
  | [] => d.finish false
  | e :: rest =>
    match e with
    | .streamStart | .documentStart => d.complete rest
    | .streamEnd => (d.push (.scalar none .empty)).finish true
    | .documentEnd => d.finish (rest.head? == some .streamEnd)
    | .alias name =>
      match d.names.lookup name with
      | some number => (d.push (.alias number)).complete rest
      | none => d.finish false
    | .scalar p w => ((d.mark p.anchor).push (.scalar p.tag w)).complete rest
    | .listStart p => ((d.mark p.anchor).push (.listStart p.tag)).complete rest
    | .recordStart p => ((d.mark p.anchor).push (.recordStart p.tag)).complete rest
    | .listEnd => (d.push .listEnd).complete rest
    | .recordEnd => (d.push .recordEnd).complete rest

end Draft

/-- The first document of some events. A text without documents holds an empty scalar. -/
def ofEvents (events : List Event) : Document := Draft.complete ⟨[], [], []⟩ events

/-- The first document of a text. -/
def ofText (text : String) : Document := ofEvents (events (tokens text.toList))

end Document

end MoveRating.Yaml
