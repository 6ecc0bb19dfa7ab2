import MoveRating.Proofs.Rating
import MoveRating.Proofs.Resolution
import MoveRating.Service.Estimates

/-!
# When a request is answered

An endpoint gives no answer if its computation overflows.

* `Tariff.figuresOf` are the figures that an endpoint comes by, in exact integers.
* `exists_response_iff`: a request is answered just if all of them fit words.
* `not_answered_of_cwtMiles`: a short haul of too many hundredweight-miles is not answered, and
  `exists_not_answered`: there are such requests to loaded tariffs.
-/

namespace MoveRating

open Reckoning

/-- The figures that an endpoint comes by for a request, each with the overflow if it does not fit
a word. A request that is rejected needs none. -/
def Tariff.figuresOf (t : Tariff) (endpoint : Endpoint) (r : HttpRequest) :
    List (Overflow × Int) :=
  match endpoint with
  | .sit =>
    match requestOf SitEstimateRequest r with
    | .error _ => []
    | .ok q =>
      (t.reckonSit q.originZip q.destinationZip ⟨q.weightEstimate⟩ q.plannedMoveDate
        q.daysInStorage).figures
  | .ppm =>
    match requestOf PpmEstimateBody r with
    | .error _ => []
    | .ok q => (t.reckonPpm q.toRequest).figures

/-- Only an overflow leaves a request without an answer. -/
theorem exists_ofPriced_iff {α : Type} [Wire α] {x : Priced α} :
    (∃ answer, HttpResponse.ofPriced x = .ok answer) ↔ ¬x.Overflows := by
  unfold Priced.Overflows
  rcases x with (why | what) | a
  · simp [HttpResponse.ofPriced]
  · simp [HttpResponse.ofPriced]
  · simp [HttpResponse.ofPriced]

theorem exists_answer_iff {t : Tariff} {endpoint : Endpoint} {r : HttpRequest} :
    (∃ answer, t.answer endpoint r = .ok answer) ↔ ∀ f ∈ t.figuresOf endpoint r, Fits f.2 := by
  cases endpoint with
  | sit =>
    unfold Tariff.answer Tariff.figuresOf
    cases hq : requestOf SitEstimateRequest r with
    | error e => simp
    | ok q =>
      simp only
      rw [exists_ofPriced_iff, (inWords_estimateSit _ _ _ _ _).not_overflows_iff]
      rfl
  | ppm =>
    unfold Tariff.answer Tariff.figuresOf
    cases hq : requestOf PpmEstimateBody r with
    | error e => simp
    | ok q =>
      simp only
      rw [exists_ofPriced_iff, (inWords_estimatePpm _).not_overflows_iff]
      rfl

theorem respond_eq_answer {t : Tariff} {endpoint : Endpoint} {r : HttpRequest}
    (hmethod : r.method = "POST") (hpath : Endpoint.ofPath? r.path = some endpoint) :
    t.respond r = t.answer endpoint r := by
  unfold Tariff.respond
  simp only [hpath, hmethod, if_true]

/-- A request to an endpoint is answered just if all figures that it leads to fit words. -/
theorem exists_response_iff (t : Tariff) (endpoint : Endpoint) (r : HttpRequest)
    (hmethod : r.method = "POST") (hpath : Endpoint.ofPath? r.path = some endpoint) :
    (∃ response, t.respond r = .ok response) ↔ ∀ f ∈ t.figuresOf endpoint r, Fits f.2 := by
  rw [respond_eq_answer hmethod hpath]
  exact exists_answer_iff

/-- On a short haul, the hundredweight-miles are formed before a bracket is looked for. -/
theorem cwtMiles_mem_figures {t : Tariff} {q : PpmEstimateRequest} {miles : UInt32}
    (hweight : 0 ≤ q.weight.toInt)
    (hmiles : t.distance? (zip3Of q.originZip) (zip3Of q.destinationZip) = some miles)
    (hshort : miles.toNat < 800) :
    (.product, miles.toNat * (q.weight.toInt / 100)) ∈ (t.reckonPpm q).figures := by
  rw [← Pounds.toInt_toCwt hweight]
  unfold Tariff.reckonPpm Tariff.reckonLinehaul
  refine mem_figures_bind.2 (.inl (mem_figures_bind.2 (.inr ?_)))
  refine ⟨(), Tariff.checkWeight_eq_ok_iff.2 hweight, mem_figures_bind.2 (.inr ?_)⟩
  refine ⟨miles, Tariff.milesBetween_eq_ok_iff.2 hmiles, mem_figures_bind.2 (.inl ?_)⟩
  unfold Tariff.reckonTransportation
  rw [if_pos hshort]
  exact mem_figures_bind.2 (.inl List.mem_cons_self)

/-- No tariff answers a request for an estimate of a short haul whose hundredweight-miles do not fit
a word, whether or not it has a bracket for them. -/
theorem not_answered_of_cwtMiles {t : Tariff} {r : HttpRequest} {q : PpmEstimateBody}
    {miles : UInt32} (hmethod : r.method = "POST") (hpath : Endpoint.ofPath? r.path = some .ppm)
    (hrequest : requestOf PpmEstimateBody r = .ok q) (hweight : 0 ≤ q.weightEstimate.toInt)
    (hmiles : t.distance? (zip3Of q.originZip) (zip3Of q.destinationZip) = some miles)
    (hshort : miles.toNat < 800) (hover : ¬Fits (miles.toNat * (q.weightEstimate.toInt / 100))) :
    ¬∃ response, t.respond r = .ok response := by
  rw [respond_eq_answer hmethod hpath, exists_answer_iff]
  intro hfits
  have hmem : (Overflow.product, (miles.toNat * (q.weightEstimate.toInt / 100) : Int)) ∈
      t.figuresOf .ppm r := by
    unfold Tariff.figuresOf
    simp only [hrequest]
    exact cwtMiles_mem_figures (q := q.toRequest) hweight hmiles hshort
  exact hover (hfits _ hmem)

/-- A request for the estimate of a move from the area 10 to itself. -/
def HttpRequest.sample (weight : String) : HttpRequest where
  method := "POST"
  target := "/estimates/ppm"
  contentType := some "application/json"
  body := ("\x7b\"origin_zip\":1000,\"destination_zip\":1000,\"weight_estimate\":" ++ weight ++
    ",\"planned_move_date\":\"2018-01-15\"\x7d").toUTF8.data.toList

theorem exists_response_sample :
    (HttpRequest.sample "2000").method = "POST" ∧
      Endpoint.ofPath? (HttpRequest.sample "2000").path = some .ppm ∧
      ∃ response, Tables.sample.toTariff.respond (HttpRequest.sample "2000") = .ok response := by
  have hpath : Endpoint.ofPath? (HttpRequest.sample "2000").path = some .ppm := by decide +kernel
  refine ⟨rfl, hpath, (exists_response_iff _ .ppm _ rfl hpath).2 ?_⟩
  decide +kernel

/-- A weight that is a word may still be too great for the hundredweight-miles of a short haul. -/
theorem exists_not_answered :
    ¬∀ (d : Directory) (l : LoadedTariff), d.load = .ok l → ∀ r : HttpRequest,
      r.method = "POST" → (∃ endpoint, Endpoint.ofPath? r.path = some endpoint) →
      ∃ response, l.tariff.respond r = .ok response := by
  intro h
  have hpath : Endpoint.ofPath? (HttpRequest.sample "9223372036854775807").path = some .ppm := by
    decide +kernel
  have hrequest : requestOf PpmEstimateBody (HttpRequest.sample "9223372036854775807") =
      .ok ⟨1000, 1000, 9223372036854775807, ⟨2018, 1, 15, by decide⟩, 0⟩ := by decide +kernel
  have hmiles : Tables.sample.toTariff.distance? 10 10 = some 640 := by decide +kernel
  have hover : ¬Fits (640 * (9223372036854775807 / 100)) := by decide
  -- the tariff has no bracket for the move, but none is ever looked for
  refine not_answered_of_cwtMiles rfl hpath hrequest (by decide) hmiles (by decide) hover ?_
  exact h .sample _ Directory.load_sample _ rfl ⟨.ppm, hpath⟩

end MoveRating
