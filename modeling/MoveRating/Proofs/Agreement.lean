import MoveRating.Proofs.Json.Defaults
import MoveRating.Proofs.Json.Estimates
import MoveRating.Proofs.Request

/-!
# Answers agree with computations

An endpoint adds nothing to the computation that it stands for.

* `read_of_sitEstimateRequest`, `read_ppmEstimateBody` : both endpoints read the same bodies, but
  days of storage may be absent from a request for a move, and then they are zero.
* `Conveys` : an answer says what a computation came to. The value in its body is the computed one,
  and a refusal is answered as the error itself would be (`ErrorResponse`).
* `respond_agrees` : so does every answer to a request that can be read, and all others are rejected
  whatever the tariff.
-/

namespace MoveRating

/-! ### The two requests -/

section

variable {s rest : List Json.Symbol}

/-- The members of both requests but the days of storage. -/
def otherRequestFields : List (String × Field) :=
  [("origin_zip", .required .word32), ("destination_zip", .required .word32),
    ("weight_estimate", .required .word64), ("planned_move_date", .required .date)]

theorem estimateRequestFields_eq (days : Field) :
    estimateRequestFields days = otherRequestFields ++ [("days_in_storage", days)] := rfl

/-- The same members make up both requests. -/
theorem map_toRequest_ofValue? (v : Value) :
    (Wire.ofValue? v : Option SitEstimateRequest).map SitEstimateRequest.toRequest =
      (Wire.ofValue? v : Option PpmEstimateBody).map PpmEstimateBody.toRequest := by
  simp only [Wire.ofValue?]
  split
  · rfl
  · rfl

/-- The days of storage are the last member. -/
theorem daysInStorage_of_getLast? {items : List Item} {q : PpmEstimateBody} {days : UInt32}
    (hq : Wire.ofValue? (.row items) = some q)
    (hlast : items.getLast? = some (some (.word32 days))) : q.daysInStorage = days := by
  simp only [Wire.ofValue?] at hq
  split at hq
  · next hitems =>
    cases hq
    cases hitems
    cases hlast
    rfl
  · cases hq

/-- A request for storage can be read as one for a move. -/
theorem read_of_sitEstimateRequest {q : SitEstimateRequest} (h : Json.read s = .ok (q, rest)) :
    ∃ q' : PpmEstimateBody, Json.read s = .ok (q', rest) ∧ q'.toRequest = q.toRequest := by
  obtain ⟨items, hitems, hq⟩ := (Json.read_row_eq_ok_iff rfl).1 h
  obtain ⟨q', hq', heq⟩ : ∃ q' : PpmEstimateBody,
      Wire.ofValue? (.row items) = some q' ∧ q'.toRequest = q.toRequest := by
    rw [← Option.map_eq_some_iff, ← map_toRequest_ofValue?, hq]
    rfl
  refine ⟨q', (Json.read_row_eq_ok_iff rfl).2 ⟨items, ?_, hq'⟩, heq⟩
  rw [estimateRequestFields_eq] at hitems ⊢
  obtain ⟨fault, -, hsame | ⟨herror, -⟩⟩ := Json.record_defaulted (.word32 0) otherRequestFields s
  · rw [← hsame]
    exact hitems
  · rw [hitems] at herror
    cases herror

/-- A body that is read as a request for a move is one for storage too, or the days of storage are
absent from it, and then they are zero. -/
theorem read_ppmEstimateBody {q : PpmEstimateBody} (h : Json.read s = .ok (q, rest)) :
    (∃ q' : SitEstimateRequest, Json.read s = .ok (q', rest) ∧ q'.toRequest = q.toRequest) ∨
      q.daysInStorage = 0 ∧ ∃ fault, (fault = .missing "days_in_storage" ∨ fault = .tooFew) ∧
        Json.read s =
          (.error (.data fault) : Except Json.Problem (SitEstimateRequest × List Json.Symbol)) := by
  obtain ⟨items, hitems, hq⟩ := (Json.read_row_eq_ok_iff rfl).1 h
  rw [estimateRequestFields_eq] at hitems
  obtain ⟨fault, hfault, hsame | ⟨herror, hlast⟩⟩ :=
    Json.record_defaulted (.word32 0) otherRequestFields s
  · left
    obtain ⟨q', hq', heq⟩ : ∃ q' : SitEstimateRequest,
        Wire.ofValue? (.row items) = some q' ∧ q'.toRequest = q.toRequest := by
      rw [← Option.map_eq_some_iff, map_toRequest_ofValue?, hq]
      rfl
    exact ⟨q', (Json.read_row_eq_ok_iff rfl).2 ⟨items, hsame.trans hitems, hq'⟩, heq⟩
  · right
    exact ⟨daysInStorage_of_getLast? hq (hlast items rest hitems), fault, hfault,
      Json.read_row_of_error rfl herror⟩

end

/-! ### Answers to computations -/

/-- The answer says what the computation came to. -/
structure Conveys {α : Type} [Wire α] (same : α → α → Prop) (x : Priced α)
    (answer : Except Overflow HttpResponse) : Prop where
  /-- A value is the body of an answer with the status 200. -/
  priced : ∀ a, x = .ok a → ∃ body a',
    answer = .ok ⟨200, some "application/json", none, some body⟩ ∧
      Json.parse? α body = .ok a' ∧ same a' a
  /-- A refusal is answered as the error itself would be. -/
  refused : ∀ why, x = .error (.refused why) →
    answer = .ok (ErrorResponse.ofRefusal why).toResponse
  /-- An overflow leaves no answer. -/
  overflowed : ∀ what, x = .error (.overflow what) → answer = .error what

theorem conveys_ofPriced {α : Type} [Wire α] {same : α → α → Prop} {x : Priced α}
    (hread : ∀ a, ∃ a', Json.parse? α (Json.write a) = .ok a' ∧ same a' a) :
    Conveys same x (HttpResponse.ofPriced x) where
  priced := by
    rintro a rfl
    obtain ⟨a', hparse, hsame⟩ := hread a
    exact ⟨_, a', rfl, hparse, hsame⟩
  refused := by
    rintro why rfl
    rfl
  overflowed := by
    rintro what rfl
    rfl

/-- Every answer of an endpoint to a request that can be read says what the computation came to,
and days of storage that are absent from a request for a move are zero. A request that cannot be
read is rejected with an error that does not hang on the tariff. -/
theorem respond_agrees (t : Tariff) (endpoint : Endpoint) (r : HttpRequest)
    (hmethod : r.method = "POST") (hpath : Endpoint.ofPath? r.path = some endpoint) :
    (endpoint = .sit → ∀ (q : SitEstimateRequest) rest,
      r.contentType.any MediaType.announcesJson = true → r.body.length ≤ 2097152 →
      Json.read (Json.symbolsOf r.body) = .ok (q, rest) →
      Conveys SitEstimate.Same (t.estimateSit q.originZip q.destinationZip ⟨q.weightEstimate⟩
        q.plannedMoveDate q.daysInStorage) (t.respond r)) ∧
    (endpoint = .ppm → ∀ (q : PpmEstimateBody) rest,
      r.contentType.any MediaType.announcesJson = true → r.body.length ≤ 2097152 →
      Json.read (Json.symbolsOf r.body) = .ok (q, rest) →
      Conveys PpmEstimate.Same (t.estimatePpm ⟨q.originZip, q.destinationZip, ⟨q.weightEstimate⟩,
        q.plannedMoveDate, q.daysInStorage⟩) (t.respond r)) ∧
    (∀ (q : PpmEstimateBody) rest, Json.read (Json.symbolsOf r.body) = .ok (q, rest) →
      (∃ q' : SitEstimateRequest, Json.read (Json.symbolsOf r.body) = .ok (q', rest) ∧
        q'.toRequest = q.toRequest) ∨
      q.daysInStorage = 0 ∧ ∃ fault, (fault = .missing "days_in_storage" ∨ fault = .tooFew) ∧
        Json.read (Json.symbolsOf r.body) =
          (.error (.data fault) : Except Json.Problem (SitEstimateRequest × List Json.Symbol))) ∧
    (endpoint.Rejects r → ∃ body e, Json.parse? ApiError body = .ok e ∧
      ∀ t' : Tariff, t'.respond r =
        .ok ⟨400, some "application/json", none, some body⟩) := by
  refine ⟨?_, ?_, fun _ _ => read_ppmEstimateBody, ?_⟩
  · rintro rfl q rest htype hlength hread
    have hasked : Endpoint.sit.asked r = .ok q.toRequest :=
      map_eq_ok_iff.2 ⟨q, requestOf_eq_ok_iff.2 ⟨htype, hlength, rest, hread⟩, rfl⟩
    rw [Tariff.respond_eq_of_asked hmethod hpath hasked]
    exact conveys_ofPriced fun e => ⟨e.plain, e.parse?_write, e.same_plain⟩
  · rintro rfl q rest htype hlength hread
    have hasked : Endpoint.ppm.asked r = .ok q.toRequest :=
      map_eq_ok_iff.2 ⟨q, requestOf_eq_ok_iff.2 ⟨htype, hlength, rest, hread⟩, rfl⟩
    rw [Tariff.respond_eq_of_asked hmethod hpath hasked]
    exact conveys_ofPriced fun e => ⟨e.plain, e.parse?_write, e.same_plain⟩
  · intro hrejects
    obtain ⟨e, hasked⟩ := Endpoint.asked_eq_error_iff.2 hrejects
    refine ⟨_, e, e.parse?_write, fun t' => ?_⟩
    rw [Tariff.respond_eq_of_rejected hmethod hpath hasked]
    rfl

/-- A request for the estimate of a move in the summer, which says nothing of storage. -/
def HttpRequest.summerMove : HttpRequest where
  method := "POST"
  target := "/estimates/ppm"
  contentType := some "application/json"
  body := ("\x7b\"origin_zip\":1001,\"destination_zip\":2072,\"weight_estimate\":2000," ++
    "\"planned_move_date\":\"2018-06-01\"\x7d").toUTF8.data.toList

theorem respond_agrees_summerMove :
    ∃ e body e', Tariff.sample.estimatePpm { PpmEstimateRequest.sample with daysInStorage := 0 } =
        .ok e ∧ e.netTotal.toInt = 680 ∧
      Tariff.sample.respond HttpRequest.summerMove =
        .ok ⟨200, some "application/json", none, some body⟩ ∧
      Json.parse? PpmEstimate body = .ok e' ∧ e'.Same e := by
  have hpath : Endpoint.ofPath? HttpRequest.summerMove.path = some .ppm := by decide +kernel
  have hread : Json.read (Json.symbolsOf HttpRequest.summerMove.body) =
      .ok ((⟨1001, 2072, 2000, ⟨2018, 6, 1, by decide⟩, 0⟩ : PpmEstimateBody), []) := by
    decide +kernel
  have hnet : (Tariff.sample.estimatePpm { PpmEstimateRequest.sample with daysInStorage := 0 }).map
      (·.netTotal.toInt) = .ok 680 := by decide +kernel
  obtain ⟨e, he, hnet⟩ := map_eq_ok_iff.1 hnet
  obtain ⟨-, hppm, -, -⟩ := respond_agrees .sample .ppm HttpRequest.summerMove rfl hpath
  obtain ⟨body, e', hanswer, hparse, hsame⟩ :=
    (hppm rfl _ _ (by decide +kernel) (by decide +kernel) hread).priced e he
  exact ⟨e, body, e', he, hnet, hanswer, hparse, hsame⟩

end MoveRating
