import MoveRating.Reimbursement

/-!
# The life of a reimbursement

A reimbursement is drafted, requested, and then approved and paid or rejected.

* `Reimbursement.Action.edge` lists the four steps with the statuses that they lead from and to.
  `Reimbursement.run_change` says all that a step does: it moves along its edge, or it is refused
  and nothing has changed.
* `Reimbursement.afterAll` is what a run of steps leaves, and `Reimbursement.done` are those of its
  steps that were taken. These form a `Reimbursement.Path` (`Reimbursement.path_done`), and they
  alone make what is left (`Reimbursement.afterAll_eq`).
* `Reimbursement.lifecycle`: whatever steps are tried in whatever order, a draft follows one of the
  two ways through its life; and what a step does to any reimbursement at all.
-/

namespace MoveRating.Reimbursement

/-! ### One step -/

/-- The name of a step. -/
def Action.name : Action → String
  | request _ => "request"
  | approve => "approve"
  | reject => "reject"
  | pay => "pay"

/-- The status in which a step is taken, and the one it leads to. -/
def Action.edge : Action → ReimbursementStatus × ReimbursementStatus
  | request _ => (.draft, .requested)
  | approve => (.requested, .approved)
  | reject => (.requested, .rejected)
  | pay => (.approved, .paid)

/-- The date that a step sets. -/
def Action.date? : Action → Option Date
  | request date => some date
  | _ => none

/-- The reimbursement at the end of the edge of a step. -/
def moved (r : Reimbursement) (a : Action) : Reimbursement :=
  { r with status := a.edge.2, requestedDate := a.date?.or r.requestedDate }

/-- A step is taken at the beginning of its edge. Anywhere else it is refused before it has changed
anything. -/
theorem run_change (r : Reimbursement) (a : Action) :
    (change a).run r =
      if r.status = a.edge.1 then (.ok (), r.moved a)
      else (.error (.invalidTransition r.status.name a.name), r) := by
  obtain ⟨id, amount, method, status, date⟩ := r
  cases a with
  | request date' => cases status <;> rfl
  | approve => cases status <;> rfl
  | reject => cases status <;> rfl
  | pay => cases status <;> rfl

theorem act_eq (r : Reimbursement) (a : Action) :
    r.act a =
      if r.status = a.edge.1 then .ok ()
      else .error (.invalidTransition r.status.name a.name) := by
  unfold act
  rw [run_change]
  split <;> rfl

theorem after_eq (r : Reimbursement) (a : Action) :
    r.after a = if r.status = a.edge.1 then r.moved a else r := by
  unfold after
  rw [run_change]
  split <;> rfl

/-! ### Runs -/

/-- The reimbursement after some steps, each taken or refused. -/
def afterAll (r : Reimbursement) (steps : List Action) : Reimbursement := steps.foldl after r

/-- Those of some steps that are taken. -/
def done (r : Reimbursement) : List Action → List Action
  | [] => []
  | a :: steps =>
    match r.act a with
    | .ok () => a :: done (r.after a) steps
    | .error _ => done (r.after a) steps

/-- A step that is taken goes along its edge. -/
theorem run_cons_of_eq {r : Reimbursement} {a : Action} (h : r.status = a.edge.1)
    (steps : List Action) :
    r.done (a :: steps) = a :: (r.moved a).done steps ∧
      r.afterAll (a :: steps) = (r.moved a).afterAll steps := by
  have hafter : r.after a = r.moved a := (after_eq r a).trans (if_pos h)
  constructor
  · rw [done, act_eq, if_pos h, hafter]
  · rw [afterAll, List.foldl_cons, hafter, afterAll]

/-- A step that is refused might as well not have been tried. -/
theorem run_cons_of_ne {r : Reimbursement} {a : Action} (h : r.status ≠ a.edge.1)
    (steps : List Action) :
    r.done (a :: steps) = r.done steps ∧ r.afterAll (a :: steps) = r.afterAll steps := by
  have hafter : r.after a = r := (after_eq r a).trans (if_neg h)
  constructor
  · rw [done, act_eq, if_neg h, hafter]
  · rw [afterAll, List.foldl_cons, hafter, afterAll]

/-- The steps follow one another from a status on. -/
inductive Path : ReimbursementStatus → List Action → Prop
  | nil (status : ReimbursementStatus) : Path status []
  | cons {status : ReimbursementStatus} {a : Action} {steps : List Action}
      (hhead : status = a.edge.1) (htail : Path a.edge.2 steps) : Path status (a :: steps)

/-- The steps of a run that are taken follow one another. -/
theorem path_done (r : Reimbursement) (steps : List Action) : Path r.status (r.done steps) := by
  induction steps generalizing r with
  | nil => exact .nil r.status
  | cons a steps ih =>
    by_cases h : r.status = a.edge.1
    · rw [(run_cons_of_eq h steps).1]
      exact .cons h (ih (r.moved a))
    · rw [(run_cons_of_ne h steps).1]
      exact ih r

/-- A run leaves what the steps that are taken make of its beginning. -/
theorem afterAll_eq (r : Reimbursement) (steps : List Action) :
    r.afterAll steps = (r.done steps).foldl moved r := by
  induction steps generalizing r with
  | nil => rfl
  | cons a steps ih =>
    by_cases h : r.status = a.edge.1
    · obtain ⟨hdone, hafter⟩ := run_cons_of_eq h steps
      rw [hdone, hafter, List.foldl_cons]
      exact ih (r.moved a)
    · obtain ⟨hdone, hafter⟩ := run_cons_of_ne h steps
      rw [hdone, hafter]
      exact ih r

/-- The reimbursement is the same one, asked for in the same way. -/
structure SameClaim (r r' : Reimbursement) : Prop where
  id : r'.id = r.id
  requestedAmount : r'.requestedAmount = r.requestedAmount
  methodOfReceipt : r'.methodOfReceipt = r.methodOfReceipt

theorem sameClaim_foldl_moved (r : Reimbursement) (steps : List Action) :
    r.SameClaim (steps.foldl moved r) := by
  induction steps generalizing r with
  | nil => exact ⟨rfl, rfl, rfl⟩
  | cons a steps ih =>
    obtain ⟨hid, hamount, hmethod⟩ := ih (r.moved a)
    exact ⟨hid, hamount, hmethod⟩

/-! ### Paths -/

/-- The greatest number of steps that can still be taken in a status. -/
def stepsLeft : ReimbursementStatus → Nat
  | .draft => 3
  | .requested => 2
  | .approved => 1
  | .rejected | .paid => 0

theorem stepsLeft_edge_lt (a : Action) : stepsLeft a.edge.2 < stepsLeft a.edge.1 := by
  cases a with
  | request date => exact Nat.lt_succ_self 2
  | _ => decide

theorem Path.length_le {status : ReimbursementStatus} {steps : List Action}
    (h : Path status steps) : steps.length ≤ stepsLeft status := by
  induction h with
  | nil status => exact Nat.zero_le _
  | @cons status a steps hhead htail ih =>
    have hlt := stepsLeft_edge_lt a
    rw [← hhead] at hlt
    rw [List.length_cons]
    omega

/-- Where no step is left, the path ends. -/
theorem Path.eq_nil {status : ReimbursementStatus} {steps : List Action} (h : Path status steps)
    (hleft : stepsLeft status = 0) : steps = [] :=
  List.eq_nil_of_length_eq_zero (Nat.le_zero.1 (hleft ▸ h.length_le))

theorem Path.of_approved {steps : List Action} (h : Path .approved steps) :
    steps = [] ∨ steps = [.pay] := by
  cases h with
  | nil => exact .inl rfl
  | @cons _ a steps hhead htail =>
    cases a with
    | pay => exact .inr (by rw [htail.eq_nil rfl])
    | _ => cases hhead

theorem Path.of_requested {steps : List Action} (h : Path .requested steps) :
    steps = [] ∨ steps = [.reject] ∨ steps = [.approve] ∨ steps = [.approve, .pay] := by
  cases h with
  | nil => exact .inl rfl
  | @cons _ a steps hhead htail =>
    cases a with
    | approve =>
      rcases htail.of_approved with rfl | rfl
      · exact .inr (.inr (.inl rfl))
      · exact .inr (.inr (.inr rfl))
    | reject => exact .inr (.inl (by rw [htail.eq_nil rfl]))
    | _ => cases hhead

/-- The five paths from a draft. -/
theorem Path.of_draft {steps : List Action} (h : Path .draft steps) :
    steps = [] ∨ ∃ date, steps = [.request date] ∨ steps = [.request date, .reject] ∨
      steps = [.request date, .approve] ∨ steps = [.request date, .approve, .pay] := by
  cases h with
  | nil => exact .inl rfl
  | @cons _ a steps hhead htail =>
    cases a with
    | request date =>
      refine .inr ⟨date, ?_⟩
      rcases htail.of_requested with rfl | rfl | rfl | rfl
      · exact .inl rfl
      · exact .inr (.inl rfl)
      · exact .inr (.inr (.inl rfl))
      · exact .inr (.inr (.inr rfl))
    | _ => cases hhead

/-! ### Lives -/

/-- The status that steps lead to from a draft. -/
def reached (steps : List Action) : ReimbursementStatus :=
  steps.foldl (fun _ a => a.edge.2) .draft

/-- What a reimbursement that was a draft shows of the steps that were taken with it. -/
structure Shows (r : Reimbursement) (steps : List Action) : Prop where
  way : steps.map Action.name <+: ["request", "approve", "pay"] ∨
    steps.map Action.name <+: ["request", "reject"]
  status : r.status = reached steps
  undated : r.requestedDate = none ↔ r.status = .draft
  dated : ∀ date, r.requestedDate = some date ↔ .request date ∈ steps

theorem shows_foldl_moved (id : Uuid) (amount : Cents) (method : MethodOfReceipt)
    {steps : List Action} (h : Path .draft steps) :
    (steps.foldl moved (draft id amount method)).Shows steps := by
  rcases h.of_draft with rfl | ⟨date, rfl | rfl | rfl | rfl⟩
  all_goals
    constructor
    case way => simp [Action.name]
    case status => rfl
    case undated => simp [draft, moved, Action.edge, Action.date?]
    case dated => simp [draft, moved, Action.date?, eq_comm]

/-- Whatever steps are tried with a draft, those that are taken are the beginning of one of the two
ways through its life, and it shows them. With any reimbursement at all, a step is taken at the
beginning of its edge and is refused anywhere else, by the name of the status, with nothing changed;
what is rejected or paid stays as it is, no run takes more than three steps, and none makes it
another claim. -/
theorem lifecycle :
    (∀ id amount method steps,
      ((draft id amount method).afterAll steps).Shows ((draft id amount method).done steps)) ∧
    ∀ r : Reimbursement,
      (∀ a, r.act a =
        if r.status = a.edge.1 then .ok ()
        else .error (.invalidTransition r.status.name a.name)) ∧
      (∀ a, r.after a = if r.status = a.edge.1 then r.moved a else r) ∧
      ∀ steps, r.SameClaim (r.afterAll steps) ∧ (r.done steps).length ≤ 3 ∧
        (r.status = .rejected ∨ r.status = .paid → r.done steps = [] ∧ r.afterAll steps = r) := by
  constructor
  · intro id amount method steps
    rw [afterAll_eq]
    exact shows_foldl_moved id amount method ((draft id amount method).path_done steps)
  · intro r
    refine ⟨r.act_eq, r.after_eq, fun steps => ⟨?_, ?_, ?_⟩⟩
    · rw [afterAll_eq]
      exact sameClaim_foldl_moved r _
    · have hlength := (r.path_done steps).length_le
      have hleft : stepsLeft r.status ≤ 3 := by cases r.status <;> decide
      omega
    · intro hstatus
      have hdone : r.done steps = [] := by
        refine (r.path_done steps).eq_nil ?_
        rcases hstatus with h | h
        · rw [h]
          rfl
        · rw [h]
          rfl
      rw [afterAll_eq, hdone]
      exact ⟨rfl, rfl⟩

/-- Steps of which some come too early, twice or too late. -/
def contestedSteps : List Action :=
  [.approve, .request ⟨2018, 3, 1, by decide⟩, .request ⟨2018, 3, 2, by decide⟩, .reject, .pay]

/-- The first request alone counts, and nothing more can be done with a claim that is rejected. -/
theorem lifecycle_contested :
    let start := draft .zero ⟨120000⟩ .gtcc
    let rejected := start.afterAll contestedSteps
    rejected.Shows [.request ⟨2018, 3, 1, by decide⟩, .reject] ∧
      rejected.status = .rejected ∧ rejected.afterAll contestedSteps = rejected := by
  obtain ⟨hdraft, hany⟩ := lifecycle
  refine ⟨hdraft .zero ⟨120000⟩ .gtcc contestedSteps, rfl, ?_⟩
  exact (((hany _).2.2 contestedSteps).2.2 (.inl rfl)).2

end MoveRating.Reimbursement
