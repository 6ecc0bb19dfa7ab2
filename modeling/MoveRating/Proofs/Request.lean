import MoveRating.Proofs.Answering

/-!
# What a request asks for

* `Endpoint.Rejects` : the ways in which a request is rejected before anything is rated.
* `Endpoint.asked` is the estimate that a request asks for, or the error for which it is rejected,
  and `Tariff.quote` the answer to what is asked.
* `respond_eq_of_asked` and `respond_eq_of_rejected` : the answer to a request is one or the other,
  and a rejection does not hang on the tariff.
-/

namespace MoveRating

/-! ### Requests that are rejected -/

section

variable {α : Type} [Wire α] {r : HttpRequest}

/-- The request does not announce JSON, is too long, or does not begin with a value of the type. -/
def HttpRequest.RejectedAs (α : Type) [Wire α] (r : HttpRequest) : Prop :=
  r.contentType.any MediaType.announcesJson = false ∨ bodyLimit < r.body.length ∨
    ∃ problem, Json.read (Json.symbolsOf r.body) = (.error problem : Except _ (α × _))

/-- The value in the body of a request that is not rejected is the first one there. -/
theorem requestOf_eq_ok_iff {a : α} :
    requestOf α r = .ok a ↔ r.contentType.any MediaType.announcesJson = true ∧
      r.body.length ≤ bodyLimit ∧ ∃ rest, Json.read (Json.symbolsOf r.body) = .ok (a, rest) := by
  unfold requestOf
  cases htype : r.contentType.any MediaType.announcesJson with
  | false => simp
  | true =>
    by_cases hlong : bodyLimit < r.body.length
    · simp [hlong, Nat.not_le_of_lt hlong]
    · cases hread : (Json.read (Json.symbolsOf r.body) : Except _ (α × _)) with
      | error problem => simp [hlong]
      | ok p =>
        obtain ⟨a', rest⟩ := p
        simp [hlong, Nat.le_of_not_lt hlong]

theorem requestOf_eq_error_iff : (∃ e, requestOf α r = .error e) ↔ r.RejectedAs α := by
  unfold requestOf HttpRequest.RejectedAs
  cases htype : r.contentType.any MediaType.announcesJson with
  | false => simp
  | true =>
    by_cases hlong : bodyLimit < r.body.length
    · simp [hlong]
    · cases hread : (Json.read (Json.symbolsOf r.body) : Except _ (α × _)) with
      | error problem => simp [hlong]
      | ok p => simp [hlong]

/-- What is wrong with the text of a body is told if nothing else is wrong with the request. -/
theorem requestOf_of_problem {problem : Json.Problem}
    (htype : r.contentType.any MediaType.announcesJson = true) (hlength : r.body.length ≤ bodyLimit)
    (hread : Json.read (Json.symbolsOf r.body) = (.error problem : Except _ (α × _))) :
    requestOf α r = .error (.ofProblem problem) := by
  unfold requestOf
  simp [htype, Nat.not_lt_of_le hlength, hread]

end

/-! ### What is asked of an endpoint -/

/-- The move that a request for storage describes. -/
def SitEstimateRequest.toRequest (q : SitEstimateRequest) : PpmEstimateRequest :=
  ⟨q.originZip, q.destinationZip, ⟨q.weightEstimate⟩, q.plannedMoveDate, q.daysInStorage⟩

namespace Endpoint

/-- The endpoint rejects the request before anything is rated. -/
def Rejects (endpoint : Endpoint) (r : HttpRequest) : Prop :=
  match endpoint with
  | .sit => r.RejectedAs SitEstimateRequest
  | .ppm => r.RejectedAs PpmEstimateBody

/-- The estimate that a request asks for, or the error for which it is rejected. -/
def asked (endpoint : Endpoint) (r : HttpRequest) : Except ApiError PpmEstimateRequest :=
  match endpoint with
  | .sit => (requestOf SitEstimateRequest r).map SitEstimateRequest.toRequest
  | .ppm => (requestOf PpmEstimateBody r).map PpmEstimateBody.toRequest

theorem asked_eq_error_iff {endpoint : Endpoint} {r : HttpRequest} :
    (∃ e, endpoint.asked r = .error e) ↔ endpoint.Rejects r := by
  cases endpoint with
  | sit =>
    refine Iff.trans ?_ (requestOf_eq_error_iff (α := SitEstimateRequest))
    exact exists_congr fun _ => map_eq_error_iff
  | ppm =>
    refine Iff.trans ?_ (requestOf_eq_error_iff (α := PpmEstimateBody))
    exact exists_congr fun _ => map_eq_error_iff

end Endpoint

namespace Tariff

variable {t : Tariff} {endpoint : Endpoint} {r : HttpRequest}

/-- The answer of an endpoint to what it is asked for. -/
def quote (t : Tariff) (endpoint : Endpoint) (q : PpmEstimateRequest) :
    Except Overflow HttpResponse :=
  match endpoint with
  | .sit =>
    HttpResponse.ofPriced
      (t.estimateSit q.originZip q.destinationZip q.weight q.plannedMoveDate q.daysInStorage)
  | .ppm => HttpResponse.ofPriced (t.estimatePpm q)

/-- An endpoint answers what it is asked for. -/
theorem respond_eq_of_asked {q : PpmEstimateRequest} (hmethod : r.method = "POST")
    (hpath : Endpoint.ofPath? r.path = some endpoint) (hasked : endpoint.asked r = .ok q) :
    t.respond r = t.quote endpoint q := by
  rw [respond_eq_answer hmethod hpath]
  unfold answer
  cases endpoint with
  | sit =>
    obtain ⟨q', hq', rfl⟩ := map_eq_ok_iff.1 hasked
    rw [hq']
    rfl
  | ppm =>
    obtain ⟨q', hq', rfl⟩ := map_eq_ok_iff.1 hasked
    rw [hq']
    rfl

/-- A rejection is the same whatever the tariff. -/
theorem respond_eq_of_rejected {e : ApiError} (hmethod : r.method = "POST")
    (hpath : Endpoint.ofPath? r.path = some endpoint) (hasked : endpoint.asked r = .error e) :
    t.respond r = .ok (.rejection e) := by
  rw [respond_eq_answer hmethod hpath]
  unfold answer
  cases endpoint with
  | sit =>
    rw [map_eq_error_iff.1 hasked]
  | ppm =>
    rw [map_eq_error_iff.1 hasked]

end Tariff

end MoveRating
