import MoveRating.Service.ApiError

/-!
# Requests and answers

An `HttpRequest` is what a client sends, an `HttpResponse` what it gets. The body of an answer is
the text of a JSON value, or nothing. An `ErrorResponse` is an error that knows the status it is
answered with.
-/

namespace MoveRating

/-- A request of a client. -/
structure HttpRequest where
  /-- The method. -/
  method : String
  /-- The address asked for. -/
  target : String
  /-- The media type of the body, if the request tells it. -/
  contentType : Option String
  /-- The body. -/
  body : List UInt8

/-- The character ends the path in an address. -/
def endsPath (c : Char) : Bool := c == '?' || c == '#'

/-- The path in an address, without host, query and fragment. -/
def HttpRequest.path (r : HttpRequest) : String :=
  let cs := r.target.toList
  let resource := match cs.dropWhile (· != ':') with
    | ':' :: '/' :: '/' :: rest =>
      if cs.head? = some '/' then cs else rest.dropWhile fun c => !(c == '/' || endsPath c)
    | _ => cs
  String.ofList (resource.takeWhile fun c => !endsPath c)

/-- An answer to a client. -/
structure HttpResponse where
  /-- The status. -/
  status : Nat
  /-- The media type of the body, if there is one. -/
  contentType : Option String
  /-- The methods that are allowed, if another one was tried. -/
  allow : Option String
  /-- The text of the body, if there is one. -/
  body : Option String
deriving DecidableEq, Repr

namespace HttpResponse

/-- An answer with a JSON value as its body. -/
def json {α : Type} [Wire α] (status : Nat) (a : α) : HttpResponse :=
  ⟨status, some "application/json", none, some (Json.write a)⟩

/-- The answer to a refused request. -/
def refusal (why : RatingError) : HttpResponse :=
  json (ApiError.statusOf why) (ApiError.ofRefusal why)

/-- The answer to a request that is rejected before any rating. -/
def rejection (error : ApiError) : HttpResponse := json 400 error

/-- There is nothing at this path. -/
def notFound : HttpResponse := ⟨404, none, none, none⟩

/-- Only `POST` is allowed here. -/
def methodNotAllowed : HttpResponse := ⟨405, none, some "POST", none⟩

end HttpResponse

/-- An error that has a status of its own. -/
structure ErrorResponse where
  /-- The status. -/
  status : Nat
  /-- The error. -/
  error : ApiError
deriving DecidableEq, Repr

namespace ErrorResponse

/-- The error of a refused request. -/
def ofRefusal (why : RatingError) : ErrorResponse := ⟨ApiError.statusOf why, ApiError.ofRefusal why⟩

/-- The error as an answer. -/
def toResponse (r : ErrorResponse) : HttpResponse := .json r.status r.error

end ErrorResponse

end MoveRating
