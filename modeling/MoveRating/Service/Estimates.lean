import MoveRating.Service.MediaType
import MoveRating.Service.Message
import MoveRating.Wire.Estimates

/-!
# The estimate service

Two endpoints answer requests for estimates: `/estimates/sit` and `/estimates/ppm`.

* `requestOf` reads the request in a body, or rejects it whatever the tariff.
* `Tariff.respond` is the answer to a request. A computation that overflows gives none.
-/

namespace MoveRating

/-- A request for an estimate of storage. -/
structure SitEstimateRequest where
  /-- The postal code of the origin. -/
  originZip : UInt32
  /-- The postal code of the destination, where the shipment is stored. -/
  destinationZip : UInt32
  /-- The estimated weight in pounds. -/
  weightEstimate : Int64
  /-- The planned date of the move. -/
  plannedMoveDate : Date
  /-- The days of storage. -/
  daysInStorage : UInt32
deriving DecidableEq, Repr

/-- A request for an estimate of a move; no days of storage are meant if none are given. -/
structure PpmEstimateBody where
  /-- The postal code of the origin. -/
  originZip : UInt32
  /-- The postal code of the destination. -/
  destinationZip : UInt32
  /-- The estimated weight in pounds. -/
  weightEstimate : Int64
  /-- The planned date of the move. -/
  plannedMoveDate : Date
  /-- The days of storage at the destination. -/
  daysInStorage : UInt32
deriving DecidableEq, Repr

/-- The members of both requests, with the days in storage as given. -/
def estimateRequestFields (days : Field) : List (String × Field) :=
  [("origin_zip", .required .word32), ("destination_zip", .required .word32),
    ("weight_estimate", .required .word64), ("planned_move_date", .required .date),
    ("days_in_storage", days)]

instance : Wire SitEstimateRequest where
  shape := .row ⟨estimateRequestFields (.required .word32), []⟩
  toValue r := .row
    [some (.word32 r.originZip), some (.word32 r.destinationZip), some (.word64 r.weightEstimate),
      some (.date r.plannedMoveDate), some (.word32 r.daysInStorage)]
  ofValue?
    | .row [some (.word32 origin), some (.word32 destination), some (.word64 weight),
        some (.date date), some (.word32 days)] => some ⟨origin, destination, weight, date, days⟩
    | _ => none

instance : Wire PpmEstimateBody where
  shape := .row ⟨estimateRequestFields (.defaulted .word32 (.word32 0)), []⟩
  toValue r := .row
    [some (.word32 r.originZip), some (.word32 r.destinationZip), some (.word64 r.weightEstimate),
      some (.date r.plannedMoveDate), some (.word32 r.daysInStorage)]
  ofValue?
    | .row [some (.word32 origin), some (.word32 destination), some (.word64 weight),
        some (.date date), some (.word32 days)] => some ⟨origin, destination, weight, date, days⟩
    | _ => none

/-- The move that a request describes. -/
def PpmEstimateBody.toRequest (b : PpmEstimateBody) : PpmEstimateRequest :=
  ⟨b.originZip, b.destinationZip, ⟨b.weightEstimate⟩, b.plannedMoveDate, b.daysInStorage⟩

/-- The greatest length of a body. -/
def bodyLimit : Nat := 2097152

/-- The value in the body of a request. What follows the first value is not looked at. -/
def requestOf (α : Type) [Wire α] (r : HttpRequest) : Except ApiError α :=
  if !r.contentType.any MediaType.announcesJson then .error .missingContentType
  else if bodyLimit < r.body.length then .error .bodyTooLong
  else
    match Json.read (Json.symbolsOf r.body) with
    | .ok (a, _) => .ok a
    | .error problem => .error (.ofProblem problem)

/-- The endpoints. -/
inductive Endpoint where
  | sit
  | ppm
deriving DecidableEq, Repr

/-- The endpoint at a path. -/
def Endpoint.ofPath? (path : String) : Option Endpoint :=
  if path = "/estimates/sit" then some sit
  else if path = "/estimates/ppm" then some ppm
  else none

/-- The answer with a computed value, or to a refused request. -/
def HttpResponse.ofPriced {α : Type} [Wire α] : Priced α → Except Overflow HttpResponse
  | .ok a => .ok (.json 200 a)
  | .error (.refused why) => .ok (.refusal why)
  | .error (.overflow what) => .error what

namespace Tariff

/-- The answer of an endpoint to a request with the right method. -/
def answer (t : Tariff) (endpoint : Endpoint) (r : HttpRequest) : Except Overflow HttpResponse :=
  match endpoint with
  | .sit =>
    match requestOf SitEstimateRequest r with
    | .error e => .ok (.rejection e)
    | .ok q =>
      HttpResponse.ofPriced
        (t.estimateSit q.originZip q.destinationZip ⟨q.weightEstimate⟩ q.plannedMoveDate
          q.daysInStorage)
  | .ppm =>
    match requestOf PpmEstimateBody r with
    | .error e => .ok (.rejection e)
    | .ok q => HttpResponse.ofPriced (t.estimatePpm q.toRequest)

/-- The answer to a request. -/
def respond (t : Tariff) (r : HttpRequest) : Except Overflow HttpResponse :=
  match Endpoint.ofPath? r.path with
  | none => .ok .notFound
  | some endpoint =>
    if r.method = "POST" then t.answer endpoint r else .ok .methodNotAllowed

end Tariff

end MoveRating
