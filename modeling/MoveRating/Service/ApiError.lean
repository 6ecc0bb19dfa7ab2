import MoveRating.Json.Record
import MoveRating.RatingError

/-!
# Error answers

What a client is told when its request fails: a code for programs, a message for people, and
perhaps details.

* `ApiError.ofRefusal` is the answer to a refused request, and `statusOf` its HTTP status.
* `ApiError.ofProblem` is the answer to a body that cannot be read.
-/

namespace MoveRating

/-- An error answer. -/
structure ApiError where
  /-- The code. -/
  code : String
  /-- The message. -/
  message : String
  /-- Further details. -/
  details : Option String
deriving DecidableEq, Repr

instance : Wire ApiError where
  shape := .row
    ⟨[("code", .required .text), ("message", .required .text),
      ("details", .optional .text false)], []⟩
  toValue e := .row [some (.text e.code), some (.text e.message), e.details.map .text]
  ofValue?
    | .row [some (.text code), some (.text message), none] => some ⟨code, message, none⟩
    | .row [some (.text code), some (.text message), some (.text details)] =>
      some ⟨code, message, some details⟩
    | _ => none

namespace ApiError

/-- An error without details. -/
def plain (code message : String) : ApiError := ⟨code, message, none⟩

/-- An error with details. -/
def detailed (code message details : String) : ApiError := ⟨code, message, some details⟩

/-- The error of a request with a value that is not valid. -/
def validation (message : String) : ApiError := plain "VALIDATION_ERROR" message

/-- The error of a request that cannot be read. -/
def malformedJson (message : String) : ApiError := plain "MALFORMED_JSON" message

/-- The error of a request that does not announce JSON. -/
def missingContentType : ApiError :=
  plain "MISSING_CONTENT_TYPE" "Content-Type must be application/json"

/-- The error of a body that is too long. -/
def bodyTooLong : ApiError := malformedJson "Failed to parse request body"

/-- The answer to a refused request. -/
def ofRefusal (why : RatingError) : ApiError :=
  match why with
  | .fileNotFound .. | .fileRejected .. =>
    detailed "CONFIG_ERROR" "Configuration error" why.message
  | .noRow table _ =>
    detailed "LOOKUP_ERROR" why.message s!"The {table.name} table has no row for this request"
  | .noRateForDate table .. =>
    detailed "NO_RATE_FOR_DATE" why.message
      s!"No {table.name} rate is effective on the requested date"
  | .noDiscount .. =>
    detailed "DISCOUNT_NOT_FOUND" why.message "No negotiated discount covers this route and date"
  | .ambiguousRate .. => detailed "AMBIGUOUS_RATE" "Tariff data error" why.message
  | .invalidTransition .. => plain "INVALID_TRANSITION" why.message
  | .invalidInput .. => validation why.message

/-- The HTTP status of the answer to a refused request. -/
def statusOf : RatingError → Nat
  | .fileNotFound .. | .fileRejected .. | .ambiguousRate .. => 500
  | .noRow .. | .noRateForDate .. | .noDiscount .. => 404
  | .invalidTransition .. => 409
  | .invalidInput .. => 400

/-- A data fault in the message to a client; a missing member is named. -/
def faultText (fault : DataFault) : String :=
  match fault.missing? with
  | some member => "<data: missing field `" ++ member ++ "`>"
  | none => "<data>"

/-- The answer to a body that cannot be read. -/
def ofProblem : Json.Problem → ApiError
  | .data fault =>
    if fault.mentionsMissing then validation (faultText fault) else malformedJson (faultText fault)
  | .malformed | .truncated => malformedJson "Invalid JSON syntax: <syntax>"

end ApiError

end MoveRating
