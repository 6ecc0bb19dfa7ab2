import MoveRating.Wire.Shape
import MoveRating.Discount
import MoveRating.EffectiveRange

/-!
# Shapes of units

How weights, amounts, rates, hauls, date ranges and reimbursements are represented.
-/

namespace MoveRating

/-- The member of a list whose name is `s`. -/
def named? {α : Type} (name : α → String) (choices : List α) (s : String) : Option α :=
  choices.find? fun a => name a == s

instance : Wire Pounds where
  shape := .scalar .word64
  toValue p := .scalar (.word64 p.val)
  ofValue?
    | .scalar (.word64 n) => some ⟨n⟩
    | _ => none

instance : Wire Cwt where
  shape := .scalar .word64
  toValue w := .scalar (.word64 w.val)
  ofValue?
    | .scalar (.word64 n) => some ⟨n⟩
    | _ => none

instance : Wire Cents where
  shape := .scalar .word64
  toValue a := .scalar (.word64 a.val)
  ofValue?
    | .scalar (.word64 n) => some ⟨n⟩
    | _ => none

instance : Wire DiscountRate where
  shape := .scalar .decimal
  toValue r := .scalar (.decimal r.fraction)
  ofValue?
    | .scalar (.decimal d) => some ⟨d⟩
    | _ => none

/-- Both kinds of haul. -/
def Haul.all : List Haul := [.longhaul, .shorthaul]

/-- A haul is known by its name. -/
def Haul.kind : Kind := .name (all.map name)

instance : Wire Haul where
  shape := .scalar Haul.kind
  toValue h := .scalar (.name h.name)
  ofValue?
    | .scalar (.name s) => named? Haul.name Haul.all s
    | _ => none

/-- Members with the two discounts of a route. -/
def RouteDiscount.fields : List (String × Field) :=
  [("linehaul", .required .decimal), ("sit", .required .decimal)]

/-- The two discounts of a route as items. -/
def RouteDiscount.toItems (d : RouteDiscount) : List Item :=
  [some (.decimal d.linehaul.fraction), some (.decimal d.sit.fraction)]

/-- The two discounts of a route from items. -/
def RouteDiscount.ofItems? : List Item → Option RouteDiscount
  | [some (.decimal linehaul), some (.decimal sit)] => some ⟨⟨linehaul⟩, ⟨sit⟩⟩
  | _ => none

instance : Wire RouteDiscount where
  shape := .row ⟨RouteDiscount.fields, []⟩
  toValue d := .row d.toItems
  ofValue?
    | .row items => RouteDiscount.ofItems? items
    | _ => none

/-- The names of the bounds of an effective range. -/
def EffectiveRange.names : List String := ["effective_date_lower", "effective_date_upper"]

instance : Wire EffectiveRange where
  shape := .row ⟨EffectiveRange.names.map fun name => (name, .required .date), []⟩
  toValue r := .row [some (.date r.lower), some (.date r.upper)]
  ofValue?
    | .row [some (.date lower), some (.date upper)] => some ⟨lower, upper⟩
    | _ => none

/-- All statuses. -/
def ReimbursementStatus.all : List ReimbursementStatus :=
  [.draft, .requested, .approved, .rejected, .paid]

/-- A status is known by its name. -/
def ReimbursementStatus.kind : Kind := .name (all.map name)

instance : Wire ReimbursementStatus where
  shape := .scalar ReimbursementStatus.kind
  toValue s := .scalar (.name s.name)
  ofValue?
    | .scalar (.name s) => named? ReimbursementStatus.name ReimbursementStatus.all s
    | _ => none

/-- Both methods of receipt. -/
def MethodOfReceipt.all : List MethodOfReceipt := [.gtcc, .otherDirectDeposit]

/-- A method of receipt is known by its name. -/
def MethodOfReceipt.kind : Kind := .name (all.map name)

instance : Wire MethodOfReceipt where
  shape := .scalar MethodOfReceipt.kind
  toValue m := .scalar (.name m.name)
  ofValue?
    | .scalar (.name s) => named? MethodOfReceipt.name MethodOfReceipt.all s
    | _ => none

instance : Wire Reimbursement where
  shape := .row
    ⟨[("id", .required .uuid), ("requested_amount", .required .word64),
      ("method_of_receipt", .required MethodOfReceipt.kind),
      ("status", .required ReimbursementStatus.kind),
      ("requested_date", .optional .date true)], []⟩
  toValue r := .row
    [some (.uuid r.id), some (.word64 r.requestedAmount.val),
      some (.name r.methodOfReceipt.name), some (.name r.status.name),
      r.requestedDate.map .date]
  ofValue?
    | .row [some (.uuid id), some (.word64 amount), some (.name method), some (.name status),
        date] => do
      let method ← named? MethodOfReceipt.name MethodOfReceipt.all method
      let status ← named? ReimbursementStatus.name ReimbursementStatus.all status
      match date with
      | none => some ⟨id, ⟨amount⟩, method, status, none⟩
      | some (.date d) => some ⟨id, ⟨amount⟩, method, status, some d⟩
      | some _ => none
    | _ => none

end MoveRating
