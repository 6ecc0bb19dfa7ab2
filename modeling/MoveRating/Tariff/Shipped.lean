import MoveRating.Tariff.Directory

/-!
# The shipped tariff

`Directory.shipped` is the directory of the tariff that comes with the engine: a small part of the
household goods tariff 400NG.
-/

namespace MoveRating.Directory

/-- Lines as the content of a file. -/
def ofLines (lines : List String) : ByteArray := ("\n".intercalate lines ++ "\n").toUTF8

/-- The description. -/
def metadataLines : List String := [
  "code: \"400NG\"",
  "name: \"Tariff 400NG household goods rates\"",
  "version: \"2017-05-15\"",
  "source: \"Seeded reference tables for rate engine development\""]

/-- The rating geography. -/
def zip3Lines : List String := [
  "zip3s:",
  "  - zip3: 395",
  "    basepoint_city: \"Saucier\"",
  "    state: \"MS\"",
  "    service_area: 428",
  "    rate_area: \"48\"",
  "    region: 11",
  "  - zip3: 336",
  "    basepoint_city: \"Tampa\"",
  "    state: \"FL\"",
  "    service_area: 184",
  "    rate_area: \"13\"",
  "    region: 13",
  "  - zip3: 100",
  "    basepoint_city: \"New York\"",
  "    state: \"NY\"",
  "    service_area: 658",
  "    rate_area: \"US14\"",
  "    region: 1",
  "  - zip3: 182",
  "    basepoint_city: \"Hazleton\"",
  "    state: \"PA\"",
  "    service_area: 208",
  "    rate_area: \"US13\"",
  "    region: 2"]

/-- Distances are directional, from an origin to a destination. -/
def distanceLines : List String := [
  "# Distance bands are directional: (origin, destination).",
  "distances:",
  "  - origin_zip3: 100",
  "    destination_zip3: 182",
  "    miles: 1000",
  "  - origin_zip3: 395",
  "    destination_zip3: 336",
  "    miles: 1000",
  "  - origin_zip3: 336",
  "    destination_zip3: 395",
  "    miles: 1010",
  "  - origin_zip3: 182",
  "    destination_zip3: 395",
  "    miles: 640"]

/-- All charges are cents per hundredweight. -/
def serviceAreaLines : List String := [
  "# All charges are cents per CWT.",
  "service_areas:",
  "  - service_area: 428",
  "    name: \"Gulfport, MS\"",
  "    linehaul_factor: 57",
  "    service_charge_cents: 350",
  "    sit_first_day_rate_cents: 1402",
  "    sit_additional_day_rate_cents: 53",
  "    sit_pickup_delivery_rate_cents: 1735",
  "    effective_date_lower: 2017-05-15",
  "    effective_date_upper: 2018-05-15",
  "  - service_area: 428",
  "    name: \"Gulfport, MS\"",
  "    linehaul_factor: 61",
  "    service_charge_cents: 365",
  "    sit_first_day_rate_cents: 1450",
  "    sit_additional_day_rate_cents: 55",
  "    sit_pickup_delivery_rate_cents: 1790",
  "    effective_date_lower: 2018-05-15",
  "    effective_date_upper: 2019-05-15",
  "  - service_area: 184",
  "    name: \"Tampa, FL\"",
  "    linehaul_factor: 43",
  "    service_charge_cents: 175",
  "    sit_first_day_rate_cents: 1500",
  "    sit_additional_day_rate_cents: 60",
  "    sit_pickup_delivery_rate_cents: 1800",
  "    effective_date_lower: 2017-05-15",
  "    effective_date_upper: 2018-05-15",
  "  - service_area: 658",
  "    name: \"New York, NY\"",
  "    linehaul_factor: 68",
  "    service_charge_cents: 520",
  "    sit_first_day_rate_cents: 1890",
  "    sit_additional_day_rate_cents: 71",
  "    sit_pickup_delivery_rate_cents: 2210",
  "    effective_date_lower: 2017-05-15",
  "    effective_date_upper: 2018-05-15",
  "  - service_area: 208",
  "    name: \"Hazleton, PA\"",
  "    linehaul_factor: 50",
  "    service_charge_cents: 300",
  "    sit_first_day_rate_cents: 1330",
  "    sit_additional_day_rate_cents: 49",
  "    sit_pickup_delivery_rate_cents: 1620",
  "    effective_date_lower: 2017-05-15",
  "    effective_date_upper: 2018-05-15"]

/-- Brackets hold their lower bound and not their upper one. -/
def baseLinehaulLines : List String := [
  "# Brackets are [lower, upper). rate_cents is per CWT.",
  "rates:",
  "  - miles_lower: 800",
  "    miles_upper: 1200",
  "    cwt_lower: 1",
  "    cwt_upper: 50",
  "    rate_cents: 900",
  "  - miles_lower: 800",
  "    miles_upper: 1200",
  "    cwt_lower: 50",
  "    cwt_upper: 1000",
  "    rate_cents: 850",
  "  - miles_lower: 3000",
  "    miles_upper: 3400",
  "    cwt_lower: 1",
  "    cwt_upper: 50",
  "    rate_cents: 3200",
  "  - miles_lower: 3000",
  "    miles_upper: 3400",
  "    cwt_lower: 50",
  "    cwt_upper: 1000",
  "    rate_cents: 3100"]

/-- Brackets of hundredweight-miles. -/
def shorthaulLines : List String := [
  "# Brackets of CWT-miles (cwt * miles), [lower, upper). rate_cents is per CWT.",
  "rates:",
  "  - cwt_miles_lower: 1",
  "    cwt_miles_upper: 16000",
  "    rate_cents: 450",
  "  - cwt_miles_lower: 16000",
  "    cwt_miles_upper: 32000",
  "    rate_cents: 799",
  "  - cwt_miles_lower: 32000",
  "    cwt_miles_upper: 1000000",
  "    rate_cents: 820"]

/-- Discounts are fractions. -/
def discountLines : List String := [
  "# Keyed by origin rate area and destination region. Rates are fractions.",
  "discounts:",
  "  - origin_rate_area: \"48\"",
  "    destination_region: 13",
  "    linehaul_rate: \"0.05\"",
  "    sit_rate: \"0.10\"",
  "    effective_date_lower: 2017-05-15",
  "    effective_date_upper: 2018-05-15",
  "  - origin_rate_area: \"US14\"",
  "    destination_region: 2",
  "    linehaul_rate: \"0.40\"",
  "    sit_rate: \"0.50\"",
  "    effective_date_lower: 2017-05-15",
  "    effective_date_upper: 2018-05-15",
  "  - origin_rate_area: \"US13\"",
  "    destination_region: 11",
  "    linehaul_rate: \"0\"",
  "    sit_rate: \"0\"",
  "    effective_date_lower: 2017-05-15",
  "    effective_date_upper: 2018-05-15"]

/-- The directory of the tariff that comes with the engine. -/
def shipped : Directory := fun file =>
  some <| ofLines <|
    match file with
    | .metadata => metadataLines
    | .table .zip3 => zip3Lines
    | .table .distance => distanceLines
    | .table .serviceArea => serviceAreaLines
    | .table .baseLinehaul => baseLinehaulLines
    | .table .shorthaul => shorthaulLines
    | .table .discount => discountLines

end MoveRating.Directory
