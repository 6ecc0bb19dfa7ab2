import MoveRating.Wire.Units
import MoveRating.Tariff.Row

/-!
# Shapes of tariff rows

How the rows of the six tables are represented. The two dates of a row that applies over a range
stand beside its other members.
-/

namespace MoveRating

/-- The members of a row for a postal area. -/
def Zip3.row : RowShape :=
  ⟨[("zip3", .required .word32), ("basepoint_city", .required .text), ("state", .required .text),
    ("service_area", .required .word32), ("rate_area", .required .text),
    ("region", .required .word32)], []⟩

instance : Wire Zip3 where
  shape := .row Zip3.row
  toValue r := .row
    [some (.word32 r.zip3), some (.text r.basepointCity), some (.text r.state),
      some (.word32 r.serviceArea), some (.text r.rateArea), some (.word32 r.region)]
  ofValue?
    | .row [some (.word32 zip3), some (.text city), some (.text state), some (.word32 area),
        some (.text rateArea), some (.word32 region)] =>
      some ⟨zip3, city, state, area, rateArea, region⟩
    | _ => none

/-- The members of a distance row. -/
def ZipDistance.row : RowShape :=
  ⟨[("origin_zip3", .required .word32), ("destination_zip3", .required .word32),
    ("miles", .required .word32)], []⟩

instance : Wire ZipDistance where
  shape := .row ZipDistance.row
  toValue r := .row
    [some (.word32 r.originZip3), some (.word32 r.destinationZip3), some (.word32 r.miles)]
  ofValue?
    | .row [some (.word32 origin), some (.word32 destination), some (.word32 miles)] =>
      some ⟨origin, destination, miles⟩
    | _ => none

/-- The members of a service area row. -/
def ServiceAreaRate.row : RowShape :=
  ⟨[("service_area", .required .word32), ("name", .required .text),
    ("linehaul_factor", .required .word64), ("service_charge_cents", .required .word64),
    ("sit_first_day_rate_cents", .required .word64),
    ("sit_additional_day_rate_cents", .required .word64),
    ("sit_pickup_delivery_rate_cents", .required .word64)], EffectiveRange.names⟩

instance : Wire ServiceAreaRate where
  shape := .row ServiceAreaRate.row
  toValue r := .row
    [some (.word32 r.serviceArea), some (.text r.name), some (.word64 r.linehaulFactor.val),
      some (.word64 r.serviceCharge.val), some (.word64 r.sitFirstDay.val),
      some (.word64 r.sitAdditionalDay.val), some (.word64 r.sitPickupDelivery.val),
      some (.date r.effective.lower), some (.date r.effective.upper)]
  ofValue?
    | .row [some (.word32 area), some (.text name), some (.word64 factor), some (.word64 charge),
        some (.word64 first), some (.word64 additional), some (.word64 pickup),
        some (.date lower), some (.date upper)] =>
      some ⟨area, name, ⟨factor⟩, ⟨charge⟩, ⟨first⟩, ⟨additional⟩, ⟨pickup⟩, ⟨lower, upper⟩⟩
    | _ => none

/-- The members of a longhaul bracket. -/
def BaseLinehaulRate.row : RowShape :=
  ⟨[("miles_lower", .required .word32), ("miles_upper", .required .word32),
    ("cwt_lower", .required .word64), ("cwt_upper", .required .word64),
    ("rate_cents", .required .word64)], []⟩

instance : Wire BaseLinehaulRate where
  shape := .row BaseLinehaulRate.row
  toValue r := .row
    [some (.word32 r.milesLower), some (.word32 r.milesUpper), some (.word64 r.cwtLower),
      some (.word64 r.cwtUpper), some (.word64 r.rate.val)]
  ofValue?
    | .row [some (.word32 milesLower), some (.word32 milesUpper), some (.word64 cwtLower),
        some (.word64 cwtUpper), some (.word64 rate)] =>
      some ⟨milesLower, milesUpper, cwtLower, cwtUpper, ⟨rate⟩⟩
    | _ => none

/-- The members of a shorthaul bracket. -/
def ShorthaulRate.row : RowShape :=
  ⟨[("cwt_miles_lower", .required .word64), ("cwt_miles_upper", .required .word64),
    ("rate_cents", .required .word64)], []⟩

instance : Wire ShorthaulRate where
  shape := .row ShorthaulRate.row
  toValue r := .row
    [some (.word64 r.cwtMilesLower), some (.word64 r.cwtMilesUpper), some (.word64 r.rate.val)]
  ofValue?
    | .row [some (.word64 lower), some (.word64 upper), some (.word64 rate)] =>
      some ⟨lower, upper, ⟨rate⟩⟩
    | _ => none

/-- The members of a discount row. -/
def RouteDiscountRate.row : RowShape :=
  ⟨[("origin_rate_area", .required .text), ("destination_region", .required .word32),
    ("linehaul_rate", .required .decimal), ("sit_rate", .required .decimal)],
    EffectiveRange.names⟩

instance : Wire RouteDiscountRate where
  shape := .row RouteDiscountRate.row
  toValue r := .row
    [some (.text r.originRateArea), some (.word32 r.destinationRegion),
      some (.decimal r.linehaulRate), some (.decimal r.sitRate), some (.date r.effective.lower),
      some (.date r.effective.upper)]
  ofValue?
    | .row [some (.text area), some (.word32 region), some (.decimal linehaul),
        some (.decimal sit), some (.date lower), some (.date upper)] =>
      some ⟨area, region, linehaul, sit, ⟨lower, upper⟩⟩
    | _ => none

end MoveRating
