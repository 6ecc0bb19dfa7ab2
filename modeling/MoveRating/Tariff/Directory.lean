import MoveRating.Tariff.Check
import MoveRating.Wire.Rows
import MoveRating.Yaml.Record

/-!
# Tariff directories

A tariff is kept in a directory of seven YAML files: one that describes it, and one for each of its
six tables.

* `Directory` gives the content of each file, if it is there.
* `Directory.load` reads all files in order and then checks the tables. Its failure names the first
  file that is missing or that cannot be read, or else the first violation of the rules.
-/

namespace MoveRating

/-- What a tariff is called. -/
structure TariffMetadata where
  /-- The code. -/
  code : String
  /-- The name. -/
  name : String
  /-- The version. -/
  version : String
  /-- Where the tariff comes from. -/
  source : String
deriving DecidableEq, Repr

/-- The members of the description of a tariff. -/
def TariffMetadata.row : RowShape :=
  ⟨[("code", .required .text), ("name", .required .text), ("version", .required .text),
    ("source", .required .text)], []⟩

instance : Wire TariffMetadata where
  shape := .row TariffMetadata.row
  toValue m := .row [some (.text m.code), some (.text m.name), some (.text m.version),
    some (.text m.source)]
  ofValue?
    | .row [some (.text code), some (.text name), some (.text version), some (.text source)] =>
      some ⟨code, name, version, source⟩
    | _ => none

/-- A file of a tariff. -/
inductive TariffFile where
  /-- The description. -/
  | metadata
  /-- The file of a table. -/
  | table (t : TariffTable)
deriving DecidableEq, Repr

namespace TariffFile

/-- The name of a file. -/
def name : TariffFile → String
  | metadata => "tariff.yaml"
  | table .zip3 => "zip3s.yaml"
  | table .distance => "distances.yaml"
  | table .serviceArea => "service_areas.yaml"
  | table .baseLinehaul => "base_linehaul.yaml"
  | table .shorthaul => "shorthaul.yaml"
  | table .discount => "discounts.yaml"

/-- All files, in the order in which they are read. -/
def all : List TariffFile := metadata :: TariffTable.all.map table

end TariffFile

/-- Why a directory is not loaded. -/
inductive LoadFailure where
  /-- A file is missing or is not text. -/
  | notFound (file : TariffFile)
  /-- A file cannot be read. -/
  | unreadable (file : TariffFile) (problem : Yaml.Problem)
  /-- A table violates the rules. -/
  | rejected (table : TariffTable) (violation : Violation)
deriving DecidableEq, Repr

namespace LoadFailure

/-- What cannot be read, in words. -/
def problemText (problem : Yaml.Problem) : String :=
  match problem, problem.missing? with
  | .broken, _ => "not a YAML document"
  | .excessive, _ => "too many references or levels"
  | .data .., some member => "missing field `" ++ member ++ "`"
  | .data .., none => "invalid value"

/-- The failure as a refusal. -/
def toRefusal : LoadFailure → RatingError
  | notFound file => .fileNotFound file.name
  | unreadable file problem => .fileRejected file.name (problemText problem)
  | rejected table violation => .fileRejected (TariffFile.table table).name violation.message

end LoadFailure

/-- A tariff with its description. -/
structure LoadedTariff where
  /-- The description. -/
  metadata : TariffMetadata
  /-- The tariff. -/
  tariff : Tariff

/-- The content of each file of a tariff, if it is there. -/
abbrev Directory := TariffFile → Option ByteArray

namespace Directory

/-- The text of a file. -/
def text (d : Directory) (file : TariffFile) : Except LoadFailure String :=
  match (d file).bind String.fromUTF8? with
  | some s => .ok s
  | none => .error (.notFound file)

/-- What a file holds. -/
def contents {α : Type} (d : Directory) (file : TariffFile)
    (parse : String → Except Yaml.Problem α) : Except LoadFailure α := do
  match parse (← d.text file) with
  | .ok a => .ok a
  | .error problem => .error (.unreadable file problem)

/-- The rows of a table. -/
def tableRows (α : Type) [Wire α] (d : Directory) (table : TariffTable) (member : String)
    (row : RowShape) : Except LoadFailure (List α) :=
  d.contents (.table table) (Yaml.parseRows α member row)

/-- The description and all tables, read in order. -/
def read (d : Directory) : Except LoadFailure (TariffMetadata × Tables) := do
  let metadata ← d.contents .metadata (Yaml.parseRow TariffMetadata TariffMetadata.row)
  let zip3s ← tableRows Zip3 d .zip3 "zip3s" Zip3.row
  let distances ← tableRows ZipDistance d .distance "distances" ZipDistance.row
  let serviceAreas ← tableRows ServiceAreaRate d .serviceArea "service_areas" ServiceAreaRate.row
  let baseLinehaul ← tableRows BaseLinehaulRate d .baseLinehaul "rates" BaseLinehaulRate.row
  let shorthaul ← tableRows ShorthaulRate d .shorthaul "rates" ShorthaulRate.row
  let discounts ← tableRows RouteDiscountRate d .discount "discounts" RouteDiscountRate.row
  return (metadata, { zip3s, distances, serviceAreas, baseLinehaul, shorthaul, discounts })

/-- The tariff of a directory. -/
def load (d : Directory) : Except LoadFailure LoadedTariff := do
  let (metadata, tables) ← d.read
  match tables.violation? with
  | some (table, violation) => .error (.rejected table violation)
  | none => .ok { metadata, tariff := tables.toTariff }

end Directory

end MoveRating
