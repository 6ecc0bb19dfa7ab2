import MoveRating.Units
import MoveRating.RatingError

/-!
# Reimbursements

A service member drafts a reimbursement and requests it; the office approves or rejects the
request, and pays what it has approved.

* `Reimbursement.change` is what one step does to a reimbursement that is kept in place.
* `Reimbursement.act` is the answer to a step, and `Reimbursement.after` the reimbursement that it
  leaves.
-/

namespace MoveRating

/-- An identifier of 128 bits, as 32 hexadecimal digits. -/
structure Uuid where
  /-- The digits, from the first. -/
  digits : List (Fin 16)
  /-- There are 32 of them. -/
  length_eq : digits.length = 32
deriving DecidableEq, Repr

namespace Uuid

/-- The identifier of 32 zeros. -/
def zero : Uuid := ⟨List.replicate 32 0, by simp⟩

/-- A hexadecimal digit, in lower case. -/
def digitChar (d : Fin 16) : Char := Nat.digitChar d.val

/-- The value of a hexadecimal digit of either case. -/
def digitOf? (c : Char) : Option (Fin 16) :=
  if '0' ≤ c ∧ c ≤ '9' then some (Fin.ofNat 16 (c.toNat - '0'.toNat))
  else if 'a' ≤ c ∧ c ≤ 'f' then some (Fin.ofNat 16 (c.toNat - 'a'.toNat + 10))
  else if 'A' ≤ c ∧ c ≤ 'F' then some (Fin.ofNat 16 (c.toNat - 'A'.toNat + 10))
  else none

/-- Characters cut into groups of the given lengths, with a hyphen between groups. -/
def hyphenate : List Nat → List Char → List Char
  | [], cs => cs
  | n :: rest, cs => cs.take n ++ '-' :: hyphenate rest (cs.drop n)

/-- The characters without the hyphens that must stand after the given lengths. -/
def unhyphenate : List Nat → List Char → Option (List Char)
  | [], cs => some cs
  | n :: rest, cs =>
    match cs.drop n with
    | '-' :: tail => (unhyphenate rest tail).map (cs.take n ++ ·)
    | _ => none

/-- The lengths of the groups before the last. -/
def groups : List Nat := [8, 4, 4, 4]

/-- An identifier as text, in five groups with hyphens between them. -/
def text (u : Uuid) : String := String.ofList (hyphenate groups (u.digits.map digitChar))

/-- The identifier with exactly these hexadecimal digits. -/
def ofDigits? (cs : List Char) : Option Uuid :=
  (cs.mapM digitOf?).bind fun ds => if h : ds.length = 32 then some ⟨ds, h⟩ else none

/-- The identifier with these digits and hyphens. -/
def ofHyphenated? (cs : List Char) : Option Uuid := (unhyphenate groups cs).bind ofDigits?

/-- Reads an identifier: bare digits, or digits with hyphens, these also in braces or after
`urn:uuid:`. -/
def parse? (s : String) : Option Uuid :=
  let cs := s.toList
  match s.utf8ByteSize with
  | 32 => ofDigits? cs
  | 36 => ofHyphenated? cs
  | 38 =>
    if cs.head? = some '\x7b' ∧ cs.getLast? = some '\x7d' then
      ofHyphenated? (cs.drop 1).dropLast
    else none
  | 45 =>
    if "urn:uuid:".toList = cs.take 9 then ofHyphenated? (cs.drop 9) else none
  | _ => none

end Uuid

/-- The status of a reimbursement. -/
inductive ReimbursementStatus where
  /-- Being prepared. -/
  | draft
  /-- Submitted for review. -/
  | requested
  /-- Approved by the office. -/
  | approved
  /-- Rejected by the office. -/
  | rejected
  /-- Paid out. -/
  | paid
deriving DecidableEq, Repr

/-- The name of a status. -/
def ReimbursementStatus.name : ReimbursementStatus → String
  | draft => "DRAFT"
  | requested => "REQUESTED"
  | approved => "APPROVED"
  | rejected => "REJECTED"
  | paid => "PAID"

/-- The way in which a reimbursement is received. -/
inductive MethodOfReceipt where
  /-- The government travel charge card. -/
  | gtcc
  /-- Other direct deposit. -/
  | otherDirectDeposit
deriving DecidableEq, Repr

/-- The name of a method of receipt. -/
def MethodOfReceipt.name : MethodOfReceipt → String
  | gtcc => "gtcc"
  | otherDirectDeposit => "other_dd"

/-- A reimbursement for a personally procured move. -/
structure Reimbursement where
  /-- The identifier. -/
  id : Uuid
  /-- The amount requested. -/
  requestedAmount : Cents
  /-- The way in which it is received. -/
  methodOfReceipt : MethodOfReceipt
  /-- The status. -/
  status : ReimbursementStatus
  /-- The date of the request, once there is one. -/
  requestedDate : Option Date
deriving DecidableEq, Repr

namespace Reimbursement

/-- A new draft. -/
def draft (id : Uuid) (amount : Cents) (method : MethodOfReceipt) : Reimbursement :=
  ⟨id, amount, method, .draft, none⟩

/-- A step in the life of a reimbursement. -/
inductive Action where
  | request (date : Date)
  | approve
  | reject
  | pay
deriving DecidableEq, Repr

/-- A change of a reimbursement in place, which may be refused. A refusal does not undo what was
changed before it. -/
abbrev Change := ExceptT RatingError (StateM Reimbursement) Unit

/-- Moves from one status to another; any other status than the first is refused. -/
def transition (action : String) (source target : ReimbursementStatus) : Change := do
  let r ← get
  if r.status ≠ source then
    throw (.invalidTransition r.status.name action)
  set { r with status := target }

/-- What a step changes. A request sets its date once its transition is made. -/
def change : Action → Change
  | .request date => do
    transition "request" .draft .requested
    modify fun r => { r with requestedDate := some date }
  | .approve => transition "approve" .requested .approved
  | .reject => transition "reject" .requested .rejected
  | .pay => transition "pay" .approved .paid

/-- The answer to a step: it is taken or refused. -/
def act (r : Reimbursement) (a : Action) : Except RatingError Unit := ((change a).run r).1

/-- The reimbursement after a step, taken or refused. -/
def after (r : Reimbursement) (a : Action) : Reimbursement := ((change a).run r).2

end Reimbursement

end MoveRating
