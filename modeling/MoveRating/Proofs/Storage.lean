import MoveRating.Proofs.NetTotal

/-!
# Storage estimates

The storage at the destination of a move, as part of its whole estimate and as an estimate of its
own.

* `checkWeight_of_linehaulCost`: a weight for which there is a linehaul charge is not negative.
* `estimateSit_of_steps`: the steps of a storage estimate lead to it, and
  `Tariff.PpmSteps.sitSteps` finds them among the steps of an estimate of the whole move.
* `estimateSit_of_estimatePpm`: a move that is estimated has a storage estimate, and the two agree.
-/

namespace MoveRating

variable {t : Tariff}

theorem checkWeight_of_linehaulCost {weight : Pounds} {origin destination : UInt32} {date : Date}
    {l : LinehaulCost} (h : t.linehaulCost weight origin destination date = .ok l) :
    Tariff.checkWeight weight = .ok () := by
  obtain ⟨⟨⟩, hchecked, -⟩ := bind_eq_ok_iff.1 h
  rwa [lift_refusal, mapError_eq_ok_iff] at hchecked

/-- A storage estimate is made by its steps. -/
theorem estimateSit_of_steps {origin destination : UInt32} {weight : Pounds} {date : Date}
    {days : UInt32} {route : RouteDiscount} {e : SitEstimate}
    (h : t.SitSteps origin destination weight date days route e) :
    t.estimateSit origin destination weight date days = .ok e := by
  obtain ⟨hchecked, hdiscount, hrate, hgross, hestimate⟩ := h
  rw [hrate] at hestimate
  unfold Tariff.estimateSit
  simp only [bind_eq_ok_iff, lift_overflow, lift_refusal, mapError_eq_ok_iff, pure_eq_ok_iff]
  refine ⟨(), hchecked, route, hdiscount, e.gross, hgross, e.estimate, hestimate, ?_⟩
  rw [← hrate]

/-- The whole estimate takes all steps of the storage estimate, though in another order. -/
theorem Tariff.PpmSteps.sitSteps {q : PpmEstimateRequest} {e : PpmEstimate} (h : t.PpmSteps q e) :
    t.SitSteps q.originZip q.destinationZip q.weight q.plannedMoveDate q.daysInStorage e.discount
      ⟨e.sit, e.discount.sit, e.sitNet⟩ where
  checked := checkWeight_of_linehaulCost h.linehaul
  discount := h.discount
  discountRate := rfl
  gross := by
    -- the whole estimate takes the weight from its linehaul charge
    rw [← cwt_of_linehaulCost h.linehaul]
    exact h.sit
  estimate := h.sitNet

/-- A move that is estimated has a storage estimate, with the same charge, rate and amount after the
discount. So where there is no storage estimate, the move is not estimated. -/
theorem estimateSit_of_estimatePpm (t : Tariff) (q : PpmEstimateRequest) :
    (∀ e, t.estimatePpm q = .ok e →
      t.estimateSit q.originZip q.destinationZip q.weight q.plannedMoveDate q.daysInStorage =
        .ok ⟨e.sit, e.discount.sit, e.sitNet⟩) ∧
      ∀ fault,
        t.estimateSit q.originZip q.destinationZip q.weight q.plannedMoveDate q.daysInStorage =
          .error fault →
        ∃ fault', t.estimatePpm q = .error fault' := by
  have hagree : ∀ e, t.estimatePpm q = .ok e →
      t.estimateSit q.originZip q.destinationZip q.weight q.plannedMoveDate q.daysInStorage =
        .ok ⟨e.sit, e.discount.sit, e.sitNet⟩ := by
    intro e he
    exact estimateSit_of_steps (steps_of_estimatePpm he).sitSteps
  refine ⟨hagree, fun fault hfault => ?_⟩
  cases he : t.estimatePpm q with
  | error fault' => exact ⟨fault', rfl⟩
  | ok e =>
    rw [hagree e he] at hfault
    cases hfault

/-- The estimates of the sample move, and of the same move from an area that is not in the
tariff. -/
theorem estimateSit_of_estimatePpm_sample :
    (∃ e, Tariff.sample.estimatePpm .sample = .ok e ∧
      Tariff.sample.estimateSit 1001 2072 ⟨2000⟩ ⟨2018, 6, 1, by decide⟩ 3 =
        .ok ⟨e.sit, e.discount.sit, e.sitNet⟩) ∧
      ∃ fault,
        Tariff.sample.estimatePpm { PpmEstimateRequest.sample with originZip := 99999 } =
          .error fault := by
  have hmove : (Tariff.sample.estimatePpm .sample).isOk = true := by decide +kernel
  have hstorage : (Tariff.sample.estimateSit 99999 2072 ⟨2000⟩ ⟨2018, 6, 1, by decide⟩ 3).isOk =
      false := by
    decide +kernel
  constructor
  · obtain ⟨e, he⟩ := isOk_eq_true_iff.1 hmove
    exact ⟨e, he, (estimateSit_of_estimatePpm .sample .sample).1 e he⟩
  · obtain ⟨fault, hfault⟩ := isOk_eq_false_iff.1 hstorage
    exact (estimateSit_of_estimatePpm .sample
      { PpmEstimateRequest.sample with originZip := 99999 }).2 fault hfault

end MoveRating
