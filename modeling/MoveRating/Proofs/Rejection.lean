import MoveRating.Proofs.Json.Absence
import MoveRating.Proofs.Json.Estimates
import MoveRating.Proofs.Report
import MoveRating.Proofs.Request

/-!
# Rejected data

A body may be well formed and still not be the request that an endpoint reads. The code of the
error tells clients whether a member is missing, but it is taken from the words of the report, and
these may be the client's own.

* `Endpoint.Misreads` : the fault for which a body is not the request that an endpoint reads.
* `Endpoint.exists_misreads_missing_iff` : a member is missing just if the body is an object that can
  be read and lacks a member that the endpoint needs.
* `Endpoint.misreads_tooFew_iff` : there are too few elements just if the body is a list that ends
  before one that the endpoint needs.
* `respond_data_fault` : the answer to a body with a fault in its data, and when its code is that of
  a missing member. If a list ends early, it never is.
* `exists_misleading_code` : the code may be that of a missing member although all are there, and
  another one although not all are there.
-/

namespace MoveRating

/-! ### Data that are misread -/

namespace Endpoint

/-- The members of the request that an endpoint reads. -/
def fields : Endpoint → List (String × Field)
  | .sit => estimateRequestFields (.required .word32)
  | .ppm => estimateRequestFields (.defaulted .word32 (.word32 0))

/-- The body is not the request that the endpoint reads, because of this fault in the data. -/
def Misreads (endpoint : Endpoint) (r : HttpRequest) (fault : DataFault) : Prop :=
  match endpoint with
  | .sit => Json.read (Json.symbolsOf r.body) =
      (.error (.data fault) : Except Json.Problem (SitEstimateRequest × List Json.Symbol))
  | .ppm => Json.read (Json.symbolsOf r.body) =
      (.error (.data fault) : Except Json.Problem (PpmEstimateBody × List Json.Symbol))

/-- The body begins with an object whose members can all be read, none of the request's twice, but a
member that the endpoint needs is not among them. What follows the object is not read. Only an
object lacks members: a list with too few elements ends early (`EndsEarly`), and an object with one
of the request's members twice is at fault for that. -/
def Lacks (endpoint : Endpoint) (r : HttpRequest) (name : String) : Prop :=
  Json.LacksMember Json.fieldReader endpoint.fields (Json.symbolsOf r.body) name

/-- The body begins with a list whose elements can all be read, but it ends before an element that
the endpoint needs. -/
def EndsEarly (endpoint : Endpoint) (r : HttpRequest) (name : String) : Prop :=
  Json.EndsEarly Json.fieldReader endpoint.fields (Json.symbolsOf r.body) name

variable {endpoint : Endpoint} {r : HttpRequest} {fault : DataFault}

theorem plain_of_mem_fields : ∀ e ∈ endpoint.fields, e.2.kind.Plain := by
  cases endpoint with
  | sit => decide
  | ppm => decide

theorem form_or_absent_of_misreads (h : endpoint.Misreads r fault) :
    fault.OfForm ∨ fault = .tooFew ∨ ∃ name, fault = .missing name := by
  have hfault : fault.OfForm ∨ (fault = .tooFew ∧ ∃ name, endpoint.EndsEarly r name) ∨
      ∃ name, fault = .missing name ∧ endpoint.Lacks r name := by
    cases endpoint with
    | sit => exact Json.onlyFaults_read_row rfl plain_of_mem_fields _ _ h
    | ppm => exact Json.onlyFaults_read_row rfl plain_of_mem_fields _ _ h
  exact hfault.imp_right (Or.imp And.left fun ⟨name, hname, _⟩ => ⟨name, hname⟩)

/-- A member is missing just if the body is an object that lacks one. -/
theorem exists_misreads_missing_iff :
    (∃ name, endpoint.Misreads r (.missing name)) ↔ ∃ name, endpoint.Lacks r name := by
  have hplain : ∀ e ∈ endpoint.fields, e.2.kind.Plain := plain_of_mem_fields
  cases endpoint with
  | sit => exact Json.exists_read_row_eq_missing_iff (α := SitEstimateRequest) rfl hplain
  | ppm => exact Json.exists_read_row_eq_missing_iff (α := PpmEstimateBody) rfl hplain

/-- There are too few elements just if the body is a list that ends early. -/
theorem misreads_tooFew_iff :
    endpoint.Misreads r .tooFew ↔ ∃ name, endpoint.EndsEarly r name := by
  have hplain : ∀ e ∈ endpoint.fields, e.2.kind.Plain := plain_of_mem_fields
  cases endpoint with
  | sit => exact Json.read_row_eq_tooFew_iff (α := SitEstimateRequest) rfl hplain
  | ppm => exact Json.read_row_eq_tooFew_iff (α := PpmEstimateBody) rfl hplain

/-- There is one fault for which a body is not the request. -/
theorem Misreads.unique {fault' : DataFault} (h : endpoint.Misreads r fault)
    (h' : endpoint.Misreads r fault') : fault = fault' := by
  cases endpoint with
  | sit => exact Json.Problem.data.inj (Except.error.inj (h.symm.trans h'))
  | ppm => exact Json.Problem.data.inj (Except.error.inj (h.symm.trans h'))

theorem Misreads.eq_iff {fault' : DataFault} (h : endpoint.Misreads r fault) :
    fault = fault' ↔ endpoint.Misreads r fault' := by
  refine ⟨?_, h.unique⟩
  rintro rfl
  exact h

theorem asked_of_misreads (htype : r.contentType.any MediaType.announcesJson = true)
    (hlength : r.body.length ≤ bodyLimit) (h : endpoint.Misreads r fault) :
    endpoint.asked r = .error (.ofProblem (.data fault)) := by
  cases endpoint with
  | sit => exact map_eq_error_iff.2 (requestOf_of_problem htype hlength h)
  | ppm => exact map_eq_error_iff.2 (requestOf_of_problem htype hlength h)

end Endpoint

/-! ### The answers -/

namespace ApiError

/-- The code of a fault in the data hangs on whether the report speaks of a missing member. -/
theorem code_ofProblem_data (fault : DataFault) :
    (ofProblem (.data fault)).code =
      if fault.mentionsMissing then "VALIDATION_ERROR" else "MALFORMED_JSON" := by
  rw [ofProblem, apply_ite code]
  rfl

theorem code_ofProblem_data_eq_validation_iff {fault : DataFault} :
    (ofProblem (.data fault)).code = "VALIDATION_ERROR" ↔ fault.mentionsMissing = true := by
  rw [code_ofProblem_data]
  split
  · next h => exact iff_of_true rfl h
  · next h => exact iff_of_false (by decide) h

end ApiError

/-- The rejection of a body with a fault in its data. -/
theorem respond_of_misreads {t : Tariff} {endpoint : Endpoint} {r : HttpRequest}
    {fault : DataFault} (hmethod : r.method = "POST")
    (hpath : Endpoint.ofPath? r.path = some endpoint)
    (htype : r.contentType.any MediaType.announcesJson = true)
    (hlength : r.body.length ≤ bodyLimit) (h : endpoint.Misreads r fault) :
    t.respond r = .ok (.rejection (.ofProblem (.data fault))) :=
  Tariff.respond_eq_of_rejected hmethod hpath (Endpoint.asked_of_misreads htype hlength h)

/-- A body with a fault in its data is rejected, whatever the tariff. The code is that of a missing
member if an object lacks one, and also if the fault is a text where no text is wanted that happens
to speak of one. All other faults are answered as malformed JSON, and so is a list that ends early,
which has a fault of its own. -/
theorem respond_data_fault (endpoint : Endpoint) (r : HttpRequest) (fault : DataFault)
    (hmethod : r.method = "POST") (hpath : Endpoint.ofPath? r.path = some endpoint)
    (htype : r.contentType.any MediaType.announcesJson = true) (hlength : r.body.length ≤ 2097152)
    (hfault : endpoint.Misreads r fault) :
    ∃ body e, Json.parse? ApiError body = .ok e ∧
      (∀ t : Tariff, t.respond r = .ok ⟨400, some "application/json", none, some body⟩) ∧
      (e.code = "VALIDATION_ERROR" ∨ e.code = "MALFORMED_JSON") ∧
      (e.code = "VALIDATION_ERROR" ↔ (∃ name, endpoint.Lacks r name) ∨
        ∃ found, fault = .unexpectedText found ∧
          "missing field".toList <:+: found.toList) ∧
      (fault = .tooFew ↔ ∃ name, endpoint.EndsEarly r name) ∧
      ((∃ name, endpoint.EndsEarly r name) → e.code = "MALFORMED_JSON") := by
  have htooFew : fault = .tooFew ↔ ∃ name, endpoint.EndsEarly r name := by
    rw [← Endpoint.misreads_tooFew_iff]
    exact hfault.eq_iff
  refine ⟨_, ApiError.ofProblem (.data fault), ApiError.parse?_write _,
    fun t => respond_of_misreads hmethod hpath htype hlength hfault, ?_, ?_, htooFew, ?_⟩
  · rw [ApiError.code_ofProblem_data]
    split
    · exact .inl rfl
    · exact .inr rfl
  · rw [ApiError.code_ofProblem_data_eq_validation_iff,
      DataFault.mentionsMissing_iff (Endpoint.form_or_absent_of_misreads hfault),
      ← Endpoint.exists_misreads_missing_iff]
    exact or_congr_left (exists_congr fun name => hfault.eq_iff)
  · intro hends
    obtain rfl := htooFew.2 hends
    rfl

/-- A request for an estimate of storage, in JSON. -/
def HttpRequest.forStorage (body : String) : HttpRequest where
  method := "POST"
  target := "/estimates/sit"
  contentType := some "application/json"
  body := body.toUTF8.data.toList

/-- A request for an estimate of storage with the origin as given. -/
def HttpRequest.fromOrigin (origin : String) : HttpRequest :=
  .forStorage ("\x7b" ++ origin ++ "\"destination_zip\":39501,\"weight_estimate\":2000," ++
    "\"planned_move_date\":\"2018-01-15\",\"days_in_storage\":0\x7d")

/-- Without an origin the member is missing. -/
theorem respond_data_fault_noOrigin :
    Endpoint.sit.Misreads (.fromOrigin "") (.missing "origin_zip") ∧
      ∃ body e, Tariff.sample.respond (.fromOrigin "") =
          .ok ⟨400, some "application/json", none, some body⟩ ∧
        Json.parse? ApiError body = .ok e ∧ e.code = "VALIDATION_ERROR" := by
  have hpath : Endpoint.ofPath? (HttpRequest.fromOrigin "").path = some .sit := by decide +kernel
  have hfault : Endpoint.sit.Misreads (.fromOrigin "") (.missing "origin_zip") := by
    unfold Endpoint.Misreads
    decide +kernel
  obtain ⟨body, e, hparse, hanswer, -, hcode, -⟩ := respond_data_fault .sit (.fromOrigin "") _ rfl
    hpath (by decide +kernel) (by decide +kernel) hfault
  refine ⟨hfault, body, e, hanswer _, hparse, hcode.2 (.inl ?_)⟩
  exact Endpoint.exists_misreads_missing_iff.1 ⟨_, hfault⟩

/-- A request to an endpoint has a fault in its data, for which it is rejected with this code by all
tariffs. -/
def Endpoint.RejectsAs (endpoint : Endpoint) (r : HttpRequest) (code : String) : Prop :=
  r.method = "POST" ∧ Endpoint.ofPath? r.path = some endpoint ∧
    r.contentType.any MediaType.announcesJson = true ∧ r.body.length ≤ 2097152 ∧
    (∃ fault, endpoint.Misreads r fault) ∧
    ∀ t : Tariff, ∃ body e, t.respond r = .ok ⟨400, some "application/json", none, some body⟩ ∧
      Json.parse? ApiError body = .ok e ∧ e.code = code

theorem Endpoint.rejectsAs_of_misreads {endpoint : Endpoint} {r : HttpRequest} {fault : DataFault}
    (hmethod : r.method = "POST") (hpath : Endpoint.ofPath? r.path = some endpoint)
    (htype : r.contentType.any MediaType.announcesJson = true)
    (hlength : r.body.length ≤ bodyLimit) (h : endpoint.Misreads r fault) :
    endpoint.RejectsAs r (ApiError.ofProblem (.data fault)).code :=
  ⟨hmethod, hpath, htype, hlength, ⟨fault, h⟩, fun _ =>
    ⟨_, _, respond_of_misreads hmethod hpath htype hlength h, ApiError.parse?_write _, rfl⟩⟩

/-- If the origin is a text that speaks of a missing member, no member is missing, but the code says
so. If the request is a list of the origin alone, all else is missing, but the code does not say
so. -/
theorem exists_misleading_code :
    (∃ r, Endpoint.sit.RejectsAs r "VALIDATION_ERROR" ∧ (¬∃ name, Endpoint.sit.Lacks r name) ∧
      ¬∃ name, Endpoint.sit.EndsEarly r name) ∧
    ∃ r, Endpoint.sit.RejectsAs r "MALFORMED_JSON" ∧ ∃ name, Endpoint.sit.EndsEarly r name := by
  constructor
  · let r := HttpRequest.fromOrigin "\"origin_zip\":\"missing field\","
    have hpath : Endpoint.ofPath? r.path = some .sit := by decide +kernel
    have hfault : Endpoint.sit.Misreads r (.unexpectedText "missing field") := by
      unfold Endpoint.Misreads
      decide +kernel
    have hcode : (ApiError.ofProblem (.data (.unexpectedText "missing field"))).code =
        "VALIDATION_ERROR" := by decide +kernel
    refine ⟨r, ?_, ?_, ?_⟩
    · rw [← hcode]
      exact Endpoint.rejectsAs_of_misreads rfl hpath (by decide +kernel) (by decide +kernel) hfault
    · rw [← Endpoint.exists_misreads_missing_iff]
      rintro ⟨name, hname⟩
      cases hfault.unique hname
    · rw [← Endpoint.misreads_tooFew_iff]
      exact fun h => nomatch hfault.unique h
  · let r := HttpRequest.forStorage "[18209]"
    have hpath : Endpoint.ofPath? r.path = some .sit := by decide +kernel
    have hfault : Endpoint.sit.Misreads r .tooFew := by
      unfold Endpoint.Misreads
      decide +kernel
    exact ⟨r, Endpoint.rejectsAs_of_misreads rfl hpath (by decide +kernel) (by decide +kernel) hfault,
      Endpoint.misreads_tooFew_iff.1 hfault⟩

end MoveRating
