import MoveRating.Wire.Fault
import MoveRating.Wire.Shape
import MoveRating.Date.Text

/-!
# Members in any order

The members of a record may be written in any order. They are gathered as they come and put in
order afterwards.

* `arrange` puts the values of members in order, and `arrangeDated` those of a row with dates.
* The outcome hangs on what `List.lookup` finds under each name, and not on the order in which the
  members came.
-/

namespace MoveRating

/-- A member that is kept aside until all others have been read. -/
inductive Aside where
  /-- A text. -/
  | text (s : String)
  /-- Any other value. -/
  | other
deriving DecidableEq, Repr

/-- The members read so far. -/
structure Gathered (ν : Type) where
  /-- The members that were asked for, the latest in front. -/
  read : List (String × ν)
  /-- The members that are kept aside, the latest in front. -/
  aside : List (String × Aside)

namespace Gathered

variable {ν : Type}

/-- No members. -/
def empty : Gathered ν := ⟨[], []⟩

/-- With a member that was asked for. -/
def add (g : Gathered ν) (name : String) (v : ν) : Gathered ν :=
  { g with read := (name, v) :: g.read }

/-- With a member kept aside. -/
def addAside (g : Gathered ν) (name : String) (v : Aside) : Gathered ν :=
  { g with aside := (name, v) :: g.aside }

/-- The member has come already. -/
def has (g : Gathered ν) (name : String) : Bool := (g.read.lookup name).isSome

end Gathered

/-- The values of members in order, or the fault that one is missing. -/
def arrange {τ ν : Type} (whenMissing? : τ → Option ν) (members : List (String × τ))
    (read : List (String × ν)) : Except DataFault (List ν) :=
  members.mapM fun (name, m) =>
    match (read.lookup name).or (whenMissing? m) with
    | some v => .ok v
    | none => .error (.missing name)

/-- The dates among the members kept aside, which come in their order. -/
def gatherDates (found : List (String × Item)) :
    List (String × Aside) → Except DataFault (List (String × Item))
  | [] => .ok found
  | (name, v) :: rest =>
    if (found.lookup name).isSome then .error (.repeated name)
    else
      match v with
      | .other => .error .unexpected
      | .text t =>
        match Date.parse? t with
        | none => .error .unreadable
        | some d => gatherDates ((name, some (.date d)) :: found) rest

/-- The items of a row with dates. -/
def arrangeDated (r : RowShape) (g : Gathered Item) : Except DataFault (List Item) := do
  let items ← arrange Field.whenMissing? r.fields g.read
  let dates ← gatherDates [] g.aside.reverse
  return items ++ (← arrange Field.whenMissing? r.dateFields dates)

end MoveRating
