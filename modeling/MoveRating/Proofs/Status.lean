import MoveRating.Proofs.NetTotal
import MoveRating.Proofs.Request

/-!
# The status of an answer

* `Tariff.Lacks` says that a row which an endpoint needs for an estimate is missing from the tariff,
  or that none is in effect on the date.
* `refusesOnly_estimatePpm` and `refusesOnly_estimateSit` : on a tariff of accepted tables, a move
  whose weight is not negative is refused only for such a row, and with the status 404.
* `status_of_response` : the answers of a loaded tariff have the status 200, 400 or 404, and each of
  them for one reason.
-/

namespace MoveRating

open Priced

/-! ### Rows that are missing -/

namespace Tariff

variable (t : Tariff)

/-- There is no row for the service area of the postal area, or none in effect on the date. -/
def LacksArea (zip3 : UInt32) (date : Date) : Prop :=
  t.zip3? zip3 = none ∨ ∃ row, t.zip3? zip3 = some row ∧
    ∀ r ∈ t.serviceAreaRates row.serviceArea, r.effective.contains date = false

/-- There is no discount row for the route, or none in effect on the date. -/
def LacksDiscount (origin destination : UInt32) (date : Date) : Prop :=
  t.zip3? origin = none ∨ t.zip3? destination = none ∨ ∃ originRow destinationRow,
    t.zip3? origin = some originRow ∧ t.zip3? destination = some destinationRow ∧
      ∀ r ∈ t.routeDiscounts originRow.rateArea destinationRow.region,
        r.effective.contains date = false

/-- There is no distance, or no bracket for the distance and the hundredweights. -/
def LacksTransportation (origin destination : UInt32) (cwt : Int) : Prop :=
  t.distance? origin destination = none ∨
    ∃ miles, t.distance? origin destination = some miles ∧ t.rateFor? miles cwt = none

/-- A row that the endpoint needs for the estimate is missing. -/
def Lacks (endpoint : Endpoint) (q : PpmEstimateRequest) : Prop :=
  let origin := q.originZip / 100
  let destination := q.destinationZip / 100
  match endpoint with
  | .sit => t.LacksDiscount origin destination q.plannedMoveDate ∨
      q.daysInStorage ≠ 0 ∧ t.LacksArea destination q.plannedMoveDate
  | .ppm => t.LacksTransportation origin destination (q.weight.toInt / 100) ∨
      t.LacksArea origin q.plannedMoveDate ∨ t.LacksArea destination q.plannedMoveDate ∨
      t.LacksDiscount origin destination q.plannedMoveDate

/-! ### Where no row is missing -/

variable {t}

theorem not_lacksArea_of_ok {zip3 : UInt32} {date : Date} {area : ServiceAreaRate}
    (h : t.serviceAreaFor zip3 date = .ok area) : ¬t.LacksArea zip3 date := by
  obtain ⟨row, hrow, hfilter⟩ := serviceAreaFor_eq_ok_iff.1 h
  rintro (hnone | ⟨row', hrow', hout⟩)
  · rw [hrow] at hnone
    cases hnone
  · rw [hrow] at hrow'
    obtain rfl := Option.some.inj hrow'
    obtain ⟨hmem, hdate⟩ := List.mem_filter.1 (hfilter ▸ List.mem_singleton_self area)
    exact Bool.false_ne_true ((hout area hmem).symm.trans hdate)

theorem not_lacksDiscount_of_ok {origin destination : UInt32} {date : Date}
    {discount : RouteDiscount} (h : t.resolveDiscount origin destination date = .ok discount) :
    ¬t.LacksDiscount (zip3Of origin) (zip3Of destination) date := by
  obtain ⟨originRow, destinationRow, row, ho, hd, hfilter, -⟩ := resolveDiscount_eq_ok_iff.1 h
  rintro (hnone | hnone | ⟨originRow', destinationRow', ho', hd', hout⟩)
  · rw [ho] at hnone
    cases hnone
  · rw [hd] at hnone
    cases hnone
  · rw [ho] at ho'
    rw [hd] at hd'
    obtain rfl := Option.some.inj ho'
    obtain rfl := Option.some.inj hd'
    obtain ⟨hmem, hdate⟩ := List.mem_filter.1 (hfilter ▸ List.mem_singleton_self row)
    exact Bool.false_ne_true ((hout row hmem).symm.trans hdate)

/-- An estimate of a move is by the rows of a rate sheet. -/
theorem rates_of_estimatePpm {q : PpmEstimateRequest} {e : PpmEstimate}
    (h : t.estimatePpm q = .ok e) : ∃ s, t.Rates q s ∧ e.figures = s.figures q := by
  obtain ⟨-, hresult⟩ := (inWords_estimatePpm q).exists_ok_iff.1 ⟨e, h, rfl⟩
  exact reckonPpm_eq_ok_iff.1 hresult

/-- A move that is estimated lacks no row. -/
theorem not_lacks_of_estimatePpm {q : PpmEstimateRequest} {e : PpmEstimate}
    (h : t.estimatePpm q = .ok e) : 0 ≤ q.weight.toInt ∧ ¬t.Lacks .ppm q := by
  obtain ⟨s, hs, -⟩ := rates_of_estimatePpm h
  obtain ⟨horigin, hdestination, hdiscount⟩ := hs.resolved
  refine ⟨hs.weight_nonneg, ?_⟩
  rintro ((hnone | ⟨miles, hmiles, hnone⟩) | hlacks | hlacks | hlacks)
  · rw [hs.distance] at hnone
    cases hnone
  · rw [hs.distance] at hmiles
    obtain rfl := Option.some.inj hmiles
    rw [hs.transportation] at hnone
    cases hnone
  · exact not_lacksArea_of_ok horigin hlacks
  · exact not_lacksArea_of_ok hdestination hlacks
  · exact not_lacksDiscount_of_ok hdiscount hlacks

theorem serviceAreaFor_of_storageCharge {cwt : Cwt} {days zip3 : UInt32} {date : Date}
    {stored : StorageEnd} {c : Cents} (h : t.storageCharge cwt days zip3 date stored = .ok c)
    (hdays : days ≠ 0) : ∃ area, t.serviceAreaFor zip3 date = .ok area := by
  unfold storageCharge at h
  by_cases hcwt : cwt.val < 0
  · rw [if_pos hcwt] at h
    cases h
  · rw [if_neg hcwt, if_neg hdays] at h
    obtain ⟨area, harea, -⟩ := bind_eq_ok_iff.1 h
    exact ⟨area, mapError_eq_ok_iff.1 harea⟩

/-- Storage that is estimated lacks no row. -/
theorem not_lacks_of_estimateSit {q : PpmEstimateRequest} {e : SitEstimate}
    (h : t.estimateSit q.originZip q.destinationZip q.weight q.plannedMoveDate q.daysInStorage =
      .ok e) : 0 ≤ q.weight.toInt ∧ ¬t.Lacks .sit q := by
  obtain ⟨route, hsteps⟩ := steps_of_estimateSit h
  refine ⟨checkWeight_eq_ok_iff.1 hsteps.checked, ?_⟩
  rintro (hlacks | ⟨hdays, hlacks⟩)
  · exact not_lacksDiscount_of_ok hsteps.discount hlacks
  · obtain ⟨area, harea⟩ := serviceAreaFor_of_storageCharge hsteps.gross hdays
    exact not_lacksArea_of_ok harea hlacks

end Tariff

/-! ### Where a row is missing -/

/-- The refusal is answered with the status 404, and the condition holds. -/
def NotFoundFor (missing : Prop) (why : RatingError) : Prop :=
  ApiError.statusOf why = 404 ∧ missing

theorem NotFoundFor.mono {p p' : Prop} (h : p → p') (why : RatingError) :
    NotFoundFor p why → NotFoundFor p' why := fun hwhy => ⟨hwhy.1, h hwhy.2⟩

theorem refusesOnly_require {α : Type} {table : TariffTable} {key : String} {o : Option α} :
    RefusesOnly (NotFoundFor (o = none)) (liftM (Tariff.require table key o) : Priced α) := by
  refine .lift_refusal fun why h => ?_
  obtain ⟨hnone, rfl⟩ := Tariff.require_eq_error_iff.1 h
  exact ⟨rfl, hnone⟩

/-- Transportation is refused only if no bracket covers the shipment. -/
theorem refusesOnly_transportation (t : Tariff) (miles : UInt32) (cwt : Cwt) :
    RefusesOnly (NotFoundFor (t.rateFor? miles cwt.toInt = none)) (t.transportation miles cwt) := by
  intro why hwhy
  -- the same refusal comes out of the reckoning in exact integers
  obtain ⟨-, hresult⟩ := (inWords_transportation miles cwt).refused_iff.1 hwhy
  unfold Tariff.reckonTransportation at hresult
  unfold Tariff.rateFor?
  by_cases hshort : miles.toNat < 800
  · rw [if_pos hshort] at hresult ⊢
    simp only [Tariff.reckonShorthaul, Reckoning.result_bind, Reckoning.result_figure,
      Reckoning.result_lookup, bind_eq_error_iff, Tariff.require_eq_error_iff, reduceCtorEq,
      and_false, exists_false, false_or, or_false, Except.ok.injEq, exists_eq_left'] at hresult
    exact ⟨by rw [hresult.2]; rfl, hresult.1⟩
  · rw [if_neg hshort] at hresult ⊢
    simp only [Tariff.reckonLonghaul, Reckoning.result_bind, Reckoning.result_figure,
      Reckoning.result_lookup, bind_eq_error_iff, Tariff.require_eq_error_iff, reduceCtorEq,
      and_false, exists_false, or_false] at hresult
    exact ⟨by rw [hresult.2]; rfl, hresult.1⟩

namespace Tables

variable {tables : Tables} (h : tables.violation? = none)

include h

theorem exists_serviceAreaFor {zip3 : UInt32} {date : Date}
    (hlacks : ¬tables.toTariff.LacksArea zip3 date) :
    ∃ area, tables.toTariff.serviceAreaFor zip3 date = .ok area := by
  unfold Tariff.LacksArea at hlacks
  push Not at hlacks
  obtain ⟨hzip3, hrows⟩ := hlacks
  obtain ⟨row, hrow⟩ := Option.ne_none_iff_exists'.1 hzip3
  obtain ⟨r, hr, hdate⟩ := hrows row hrow
  rw [serviceAreaRates_toTariff] at hr
  obtain ⟨hmem, hkey⟩ := List.mem_filter.1 hr
  obtain ⟨hlower, hupper⟩ := EffectiveRange.contains_iff.1 (Bool.eq_true_of_not_eq_false hdate)
  exact ⟨r, (resolvedBy_toTariff h).serviceArea r hmem date hlower hupper zip3 row hrow
    (of_decide_eq_true hkey).symm⟩

theorem exists_resolveDiscount {origin destination : UInt32} {date : Date}
    (hlacks : ¬tables.toTariff.LacksDiscount (zip3Of origin) (zip3Of destination) date) :
    ∃ discount, tables.toTariff.resolveDiscount origin destination date = .ok discount := by
  unfold Tariff.LacksDiscount at hlacks
  push Not at hlacks
  obtain ⟨horigin, hdestination, hrows⟩ := hlacks
  obtain ⟨originRow, ho⟩ := Option.ne_none_iff_exists'.1 horigin
  obtain ⟨destinationRow, hd⟩ := Option.ne_none_iff_exists'.1 hdestination
  obtain ⟨r, hr, hdate⟩ := hrows originRow destinationRow ho hd
  rw [routeDiscounts_toTariff] at hr
  obtain ⟨hmem, hkey⟩ := List.mem_filter.1 hr
  obtain ⟨harea, hregion⟩ := Prod.mk.inj (of_decide_eq_true hkey)
  obtain ⟨hlower, hupper⟩ := EffectiveRange.contains_iff.1 (Bool.eq_true_of_not_eq_false hdate)
  exact ⟨_, (resolvedBy_toTariff h).discount r hmem date hlower hupper origin destination originRow
    destinationRow ho harea.symm hd hregion.symm⟩

theorem refusesOnly_serviceAreaFor (zip3 : UInt32) (date : Date) :
    RefusesOnly (NotFoundFor (tables.toTariff.LacksArea zip3 date))
      (liftM (tables.toTariff.serviceAreaFor zip3 date) : Priced ServiceAreaRate) := by
  refine .lift_refusal fun why hwhy => ⟨?_, ?_⟩
  · cases hzip3 : tables.toTariff.zip3? zip3 with
    | none =>
      unfold Tariff.serviceAreaFor Tariff.zip3Row at hwhy
      rw [hzip3] at hwhy
      cases hwhy
      rfl
    | some row =>
      have hne := serviceAreaFor_ne_ambiguous h zip3 date
      rw [hwhy] at hne
      rw [Tariff.serviceAreaFor_eq_of_zip3? hzip3] at hwhy
      rcases selectEffective_error_cases hwhy with rfl | rfl | rfl
      · rfl
      · rfl
      · exact absurd rfl (hne _ _ _)
  · by_contra hlacks
    obtain ⟨area, harea⟩ := exists_serviceAreaFor h hlacks
    rw [hwhy] at harea
    cases harea

theorem refusesOnly_resolveDiscount (origin destination : UInt32) (date : Date) :
    RefusesOnly
      (NotFoundFor (tables.toTariff.LacksDiscount (zip3Of origin) (zip3Of destination) date))
      (liftM (tables.toTariff.resolveDiscount origin destination date) : Priced RouteDiscount) := by
  refine .lift_refusal fun why hwhy => ⟨?_, ?_⟩
  · rcases resolveDiscount_error_cases h hwhy with ⟨key, rfl⟩ | rfl <;> rfl
  · by_contra hlacks
    obtain ⟨discount, hdiscount⟩ := exists_resolveDiscount h hlacks
    rw [hwhy] at hdiscount
    cases hdiscount

/-! ### Why an estimate is refused -/

theorem refusesOnly_areaCharge (rate : ServiceAreaRate → Cents) (cwt : Cwt) (zip3 : UInt32)
    (date : Date) :
    RefusesOnly (NotFoundFor (tables.toTariff.LacksArea zip3 date))
      (do let area ← tables.toTariff.serviceAreaFor zip3 date
          (rate area).perCwt cwt : Priced Cents) :=
  .bind (refusesOnly_serviceAreaFor h zip3 date) fun _ => .lift_overflow _

theorem refusesOnly_storageCharge {cwt : Cwt} (hcwt : 0 ≤ cwt.toInt) (days zip3 : UInt32)
    (date : Date) (stored : StorageEnd) :
    RefusesOnly (NotFoundFor (days ≠ 0 ∧ tables.toTariff.LacksArea zip3 date))
      (tables.toTariff.storageCharge cwt days zip3 date stored) := by
  have hnonneg : ¬cwt.val < 0 := fun hneg => Int.not_lt.2 hcwt (Int64.lt_iff_toInt_lt.1 hneg)
  unfold Tariff.storageCharge
  rw [if_neg hnonneg]
  by_cases hdays : days = 0
  · rw [if_pos hdays]
    exact .pure _
  · rw [if_neg hdays]
    refine .bind ((refusesOnly_serviceAreaFor h zip3 date).mono ?_) fun _ => .lift_overflow _
    exact NotFoundFor.mono fun hlacks => ⟨hdays, hlacks⟩

theorem refusesOnly_linehaulCost {weight : Pounds} (hweight : 0 ≤ weight.toInt)
    (origin destination : UInt32) (date : Date) :
    RefusesOnly
      (NotFoundFor
        (tables.toTariff.LacksTransportation origin destination (weight.toInt / 100) ∨
          tables.toTariff.LacksArea origin date ∨ tables.toTariff.LacksArea destination date))
      (tables.toTariff.linehaulCost weight origin destination date) := by
  have hcheck : Tariff.checkWeight weight = .ok () := Tariff.checkWeight_eq_ok_iff.2 hweight
  unfold Tariff.linehaulCost
  rw [hcheck]
  refine .bind (fun _ hwhy => nomatch hwhy) fun _ => ?_
  refine .bind_of_ok (refusesOnly_require.mono (NotFoundFor.mono fun hnone => .inl (.inl hnone)))
    fun miles hmiles => ?_
  have hdistance := Tariff.milesBetween_eq_ok_iff.1 (mapError_eq_ok_iff.1 hmiles)
  refine .bind ((refusesOnly_transportation _ miles _).mono (NotFoundFor.mono fun hnone => ?_))
    fun _ => ?_
  · rw [Pounds.toInt_toCwt hweight] at hnone
    exact .inl (.inr ⟨miles, hdistance, hnone⟩)
  refine .bind ((refusesOnly_areaCharge h _ _ origin date).mono
    (NotFoundFor.mono fun hlacks => .inr (.inl hlacks))) fun _ => ?_
  refine .bind ((refusesOnly_areaCharge h _ _ destination date).mono
    (NotFoundFor.mono fun hlacks => .inr (.inr hlacks))) fun _ => ?_
  exact .bind (.lift_overflow _) fun _ => .bind (.lift_overflow _) fun _ => .pure _

theorem refusesOnly_estimatePpm {q : PpmEstimateRequest} (hweight : 0 ≤ q.weight.toInt) :
    RefusesOnly (NotFoundFor (tables.toTariff.Lacks .ppm q)) (tables.toTariff.estimatePpm q) := by
  have harea {zip3 : UInt32} (hzip3 : zip3 = q.originZip / 100 ∨ zip3 = q.destinationZip / 100)
      (hlacks : tables.toTariff.LacksArea zip3 q.plannedMoveDate) :
      tables.toTariff.Lacks .ppm q := by
    rcases hzip3 with rfl | rfl
    · exact .inr (.inl hlacks)
    · exact .inr (.inr (.inl hlacks))
  unfold Tariff.estimatePpm
  refine .bind_of_ok ((refusesOnly_linehaulCost h hweight _ _ _).mono (NotFoundFor.mono ?_))
    fun linehaul hlinehaul => ?_
  · rintro (hlacks | hlacks | hlacks)
    · exact .inl hlacks
    · exact harea (.inl rfl) hlacks
    · exact harea (.inr rfl) hlacks
  have hcwt : 0 ≤ linehaul.cwt.toInt := by
    rw [cwt_of_linehaulCost hlinehaul]
    exact Pounds.toCwt_nonneg hweight
  refine .bind ((refusesOnly_areaCharge h _ _ _ _).mono (NotFoundFor.mono (harea (.inl rfl))))
    fun _ => ?_
  refine .bind ((refusesOnly_areaCharge h _ _ _ _).mono (NotFoundFor.mono (harea (.inr rfl))))
    fun _ => ?_
  refine .bind ((refusesOnly_storageCharge h hcwt _ _ _ _).mono
    (NotFoundFor.mono fun hlacks => harea (.inr rfl) hlacks.2)) fun _ => ?_
  refine .bind ((refusesOnly_resolveDiscount h _ _ _).mono
    (NotFoundFor.mono fun hlacks => .inr (.inr (.inr hlacks)))) fun _ => ?_
  refine .bind (.lift_overflow _) fun _ => .bind (.lift_overflow _) fun _ => ?_
  refine .bind (.lift_overflow _) fun _ => .bind (.lift_overflow _) fun _ => ?_
  exact .bind (.lift_overflow _) fun _ => .bind (.lift_overflow _) fun _ => .pure _

theorem refusesOnly_estimateSit {q : PpmEstimateRequest} (hweight : 0 ≤ q.weight.toInt) :
    RefusesOnly (NotFoundFor (tables.toTariff.Lacks .sit q))
      (tables.toTariff.estimateSit q.originZip q.destinationZip q.weight q.plannedMoveDate
        q.daysInStorage) := by
  have hcheck : Tariff.checkWeight q.weight = .ok () := Tariff.checkWeight_eq_ok_iff.2 hweight
  unfold Tariff.estimateSit
  rw [hcheck]
  refine .bind (fun _ hwhy => nomatch hwhy) fun _ => ?_
  refine .bind ((refusesOnly_resolveDiscount h _ _ _).mono (NotFoundFor.mono .inl)) fun _ => ?_
  refine .bind ((refusesOnly_storageCharge h (Pounds.toCwt_nonneg hweight) _ _ _ _).mono
    (NotFoundFor.mono .inr)) fun _ => ?_
  exact .bind (.lift_overflow _) fun _ => .pure _

end Tables

/-! ### The status of an answer -/

/-- The three ways in which a request for an estimate is answered, each with its status. -/
inductive HttpResponse.AnsweredWith (t : Tariff) (endpoint : Endpoint) (q : PpmEstimateRequest)
    (response : HttpResponse) : Prop where
  | priced (hweight : 0 ≤ q.weight.toInt) (hrows : ¬t.Lacks endpoint q)
    (hstatus : response.status = 200)
  | negative (hweight : q.weight.toInt < 0) (hstatus : response.status = 400)
  | missing (hweight : 0 ≤ q.weight.toInt) (hrows : t.Lacks endpoint q)
    (hstatus : response.status = 404)

/-- The status of the answer to a computation. -/
theorem status_of_ofPriced {α : Type} [Wire α] {x : Priced α} {response : HttpResponse}
    (h : HttpResponse.ofPriced x = .ok response) :
    (∃ a, x = .ok a) ∧ response.status = 200 ∨
      ∃ why, x = .error (.refused why) ∧ response.status = ApiError.statusOf why := by
  rcases x with (why | what) | a
  · cases h
    exact .inr ⟨why, rfl, rfl⟩
  · cases h
  · cases h
    exact .inl ⟨⟨a, rfl⟩, rfl⟩

/-- A weight below zero is refused with the status 400. -/
theorem statusOf_of_checkWeight {weight : Pounds} (hweight : weight.toInt < 0) {α : Type}
    {f : Unit → Priced α} {why : RatingError}
    (h : ((liftM (Tariff.checkWeight weight) : Priced Unit) >>= f) = .error (.refused why)) :
    ApiError.statusOf why = 400 := by
  have hneg : weight.val < 0 := Int64.lt_iff_toInt_lt.2 hweight
  unfold Tariff.checkWeight at h
  rw [if_pos hneg] at h
  cases h
  rfl

theorem answeredWith_of_quote {tables : Tables} (htables : tables.violation? = none)
    {endpoint : Endpoint} {q : PpmEstimateRequest} {response : HttpResponse}
    (h : tables.toTariff.quote endpoint q = .ok response) :
    response.AnsweredWith tables.toTariff endpoint q := by
  by_cases hweight : 0 ≤ q.weight.toInt
  · cases endpoint with
    | sit =>
      rcases status_of_ofPriced h with ⟨⟨e, he⟩, hstatus⟩ | ⟨why, hwhy, hstatus⟩
      · exact .priced hweight (Tariff.not_lacks_of_estimateSit he).2 hstatus
      · obtain ⟨h404, hlacks⟩ := Tables.refusesOnly_estimateSit htables hweight why hwhy
        exact .missing hweight hlacks (hstatus.trans h404)
    | ppm =>
      rcases status_of_ofPriced h with ⟨⟨e, he⟩, hstatus⟩ | ⟨why, hwhy, hstatus⟩
      · exact .priced hweight (Tariff.not_lacks_of_estimatePpm he).2 hstatus
      · obtain ⟨h404, hlacks⟩ := Tables.refusesOnly_estimatePpm htables hweight why hwhy
        exact .missing hweight hlacks (hstatus.trans h404)
  · have hneg := Int.not_le.1 hweight
    cases endpoint with
    | sit =>
      rcases status_of_ofPriced h with ⟨⟨e, he⟩, -⟩ | ⟨why, hwhy, hstatus⟩
      · exact absurd (Tariff.not_lacks_of_estimateSit he).1 hweight
      · exact .negative hneg (hstatus.trans (statusOf_of_checkWeight hneg hwhy))
    | ppm =>
      rcases status_of_ofPriced h with ⟨⟨e, he⟩, -⟩ | ⟨why, hwhy, hstatus⟩
      · exact absurd (Tariff.not_lacks_of_estimatePpm he).1 hweight
      · rcases bind_eq_error_iff.1 hwhy with hwhy | ⟨linehaul, hlinehaul, -⟩
        · exact .negative hneg (hstatus.trans (statusOf_of_checkWeight hneg hwhy))
        · -- no linehaul charge comes of such a weight
          obtain ⟨u, hu, -⟩ := bind_eq_ok_iff.1 hlinehaul
          exact absurd (Tariff.checkWeight_eq_ok_iff.1 (mapError_eq_ok_iff.1 hu)) hweight

/-- A loaded tariff answers with the status 400 if the request is rejected before it is rated or
the weight is negative, with 404 if a row is missing that the estimate needs, and else with 200. -/
theorem status_of_response (d : Directory) (l : LoadedTariff) (hload : d.load = .ok l)
    (endpoint : Endpoint) (r : HttpRequest) (hmethod : r.method = "POST")
    (hpath : Endpoint.ofPath? r.path = some endpoint) (response : HttpResponse)
    (hresponse : l.tariff.respond r = .ok response) :
    (response.status = 200 ∨ response.status = 400 ∨ response.status = 404) ∧
      (response.status = 400 ↔
        endpoint.Rejects r ∨ ∃ q, endpoint.asked r = .ok q ∧ q.weight.toInt < 0) ∧
      (response.status = 404 ↔
        ∃ q, endpoint.asked r = .ok q ∧ 0 ≤ q.weight.toInt ∧ l.tariff.Lacks endpoint q) ∧
      (response.status = 200 ↔
        ∃ q, endpoint.asked r = .ok q ∧ 0 ≤ q.weight.toInt ∧ ¬l.tariff.Lacks endpoint q) := by
  obtain ⟨tables, -, htables, htariff⟩ := Directory.load_eq_ok_iff.1 hload
  rw [← Endpoint.asked_eq_error_iff]
  cases hasked : endpoint.asked r with
  | error e =>
    rw [Tariff.respond_eq_of_rejected hmethod hpath hasked] at hresponse
    cases hresponse
    simp [HttpResponse.rejection, HttpResponse.json]
  | ok q =>
    rw [htariff, Tariff.respond_eq_of_asked hmethod hpath hasked] at hresponse
    rw [htariff]
    cases answeredWith_of_quote htables hresponse with
    | priced hweight hrows hstatus => simp [hstatus, hweight, hrows]
    | negative hweight hstatus => simp [hstatus, hweight, Int.not_le.2 hweight]
    | missing hweight hrows hstatus => simp [hstatus, hweight, hrows]

theorem status_of_response_sample :
    ∃ response, Tables.sample.toTariff.respond (HttpRequest.sample "2000") = .ok response ∧
      Tables.sample.toTariff.Lacks .ppm ⟨1000, 1000, ⟨2000⟩, ⟨2018, 1, 15, by decide⟩, 0⟩ ∧
      response.status = 404 := by
  have hpath : Endpoint.ofPath? (HttpRequest.sample "2000").path = some .ppm := by decide +kernel
  have hasked : Endpoint.ppm.asked (HttpRequest.sample "2000") =
      .ok ⟨1000, 1000, ⟨2000⟩, ⟨2018, 1, 15, by decide⟩, 0⟩ := by decide +kernel
  -- the tariff has no brackets
  have hlacks : Tables.sample.toTariff.Lacks .ppm
      ⟨1000, 1000, ⟨2000⟩, ⟨2018, 1, 15, by decide⟩, 0⟩ :=
    .inl (.inr ⟨640, by decide +kernel, by decide +kernel⟩)
  have hisOk : (Tables.sample.toTariff.respond (HttpRequest.sample "2000")).isOk = true := by
    decide +kernel
  cases hresponse : Tables.sample.toTariff.respond (HttpRequest.sample "2000") with
  | error what =>
    rw [hresponse] at hisOk
    cases hisOk
  | ok response =>
    refine ⟨response, rfl, hlacks, ?_⟩
    exact (status_of_response .sample _ Directory.load_sample .ppm (HttpRequest.sample "2000") rfl
      hpath response hresponse).2.2.1.2 ⟨_, hasked, by decide, hlacks⟩

end MoveRating
