import MoveRating.Wire.Units
import MoveRating.Pricing.Estimate

/-!
# Shapes of estimates

How estimates and the requests for them are represented.
-/

namespace MoveRating

namespace LinehaulCost

/-- The members of an itemized linehaul charge. -/
def fields : List (String × Field) :=
  [("mileage", .required .word32), ("cwt", .required .word64), ("haul_type", .required Haul.kind),
    ("transportation", .required .word64), ("origin_linehaul_factor", .required .word64),
    ("destination_linehaul_factor", .required .word64), ("total", .required .word64)]

/-- An itemized linehaul charge as items. -/
def toItems (c : LinehaulCost) : List Item :=
  [some (.word32 c.mileage), some (.word64 c.cwt.val), some (.name c.haul.name),
    some (.word64 c.transportation.val), some (.word64 c.originFactor.val),
    some (.word64 c.destinationFactor.val), some (.word64 c.total.val)]

/-- An itemized linehaul charge from items. -/
def ofItems? : List Item → Option LinehaulCost
  | [some (.word32 mileage), some (.word64 cwt), some (.name haul), some (.word64 transportation),
      some (.word64 origin), some (.word64 destination), some (.word64 total)] =>
    (named? Haul.name Haul.all haul).map fun haul =>
      ⟨mileage, ⟨cwt⟩, haul, ⟨transportation⟩, ⟨origin⟩, ⟨destination⟩, ⟨total⟩⟩
  | _ => none

instance : Wire LinehaulCost where
  shape := .row ⟨fields, []⟩
  toValue c := .row c.toItems
  ofValue?
    | .row items => ofItems? items
    | _ => none

end LinehaulCost

instance : Wire PpmEstimateRequest where
  shape := .row
    ⟨[("origin_zip", .required .word32), ("destination_zip", .required .word32),
      ("weight", .required .word64), ("planned_move_date", .required .date),
      ("days_in_storage", .defaulted .word32 (.word32 0))], []⟩
  toValue r := .row
    [some (.word32 r.originZip), some (.word32 r.destinationZip), some (.word64 r.weight.val),
      some (.date r.plannedMoveDate), some (.word32 r.daysInStorage)]
  ofValue?
    | .row [some (.word32 origin), some (.word32 destination), some (.word64 weight),
        some (.date date), some (.word32 days)] =>
      some ⟨origin, destination, ⟨weight⟩, date, days⟩
    | _ => none

instance : Wire SitEstimate where
  shape := .row
    ⟨[("gross", .required .word64), ("discount_rate", .required .decimal),
      ("estimate", .required .word64)], []⟩
  toValue e := .row
    [some (.word64 e.gross.val), some (.decimal e.discountRate.fraction),
      some (.word64 e.estimate.val)]
  ofValue?
    | .row [some (.word64 gross), some (.decimal rate), some (.word64 estimate)] =>
      some ⟨⟨gross⟩, ⟨rate⟩, ⟨estimate⟩⟩
    | _ => none

/-- A member that holds an amount. -/
def Member.amount : Member := .field (.required .word64)

/-- An amount as a cell. -/
def Cell.amount (a : Cents) : Cell := .item (some (.word64 a.val))

instance : Wire PpmEstimate where
  shape := .nested
    [("linehaul", .row LinehaulCost.fields), ("origin_service_charge", .amount),
      ("destination_service_charge", .amount), ("sit", .amount),
      ("discount", .row RouteDiscount.fields), ("linehaul_net", .amount),
      ("service_charges_net", .amount), ("sit_net", .amount), ("gross_total", .amount),
      ("net_total", .amount)]
  toValue e := .nested
    [.row e.linehaul.toItems, .amount e.originServiceCharge, .amount e.destinationServiceCharge,
      .amount e.sit, .row e.discount.toItems, .amount e.linehaulNet, .amount e.serviceChargesNet,
      .amount e.sitNet, .amount e.grossTotal, .amount e.netTotal]
  ofValue?
    | .nested [.row linehaul, .item (some (.word64 origin)), .item (some (.word64 destination)),
        .item (some (.word64 sit)), .row discount, .item (some (.word64 linehaulNet)),
        .item (some (.word64 serviceNet)), .item (some (.word64 sitNet)),
        .item (some (.word64 gross)), .item (some (.word64 net))] => do
      let linehaul ← LinehaulCost.ofItems? linehaul
      let discount ← RouteDiscount.ofItems? discount
      some ⟨linehaul, ⟨origin⟩, ⟨destination⟩, ⟨sit⟩, discount, ⟨linehaulNet⟩, ⟨serviceNet⟩,
        ⟨sitNet⟩, ⟨gross⟩, ⟨net⟩⟩
    | _ => none

end MoveRating
