import MoveRating.Proofs.Comparison
import MoveRating.Proofs.Contents
import MoveRating.Proofs.Rating

/-!
# Tariffs that grow

Rates may be added to a tariff at any time, also by mistake: twice, with overlapping ranges or with
brackets that are covered already.

* `TariffRow.IsRate`: the rows that are added beside others, and not in place of one.
* `Tariff.GrowsTo`: one tariff has all rows of the other in front of its own. It does after the
  addition of a rate (`Tariff.growsTo_add`), and so after any number of them
  (`Tariff.growsTo_addAll`).
* `Tariff.perform_addAll_of_ok`: what a tariff answers stays its answer, or is refused for an
  ambiguous rate. No other price, refusal or overflow comes of an addition.
-/

namespace MoveRating

/-- The row is kept beside the others under its key. -/
def TariffRow.IsRate : TariffRow → Prop
  | .zip3 _ | .distance _ => False
  | .serviceArea _ | .baseLinehaul _ | .shorthaul _ | .discount _ => True

namespace Tariff

/-- The second tariff has the geography of the first, and all rates of it before its own. -/
structure GrowsTo (t t' : Tariff) : Prop where
  zip3? : ∀ zip3, t'.zip3? zip3 = t.zip3? zip3
  distance? : ∀ origin destination,
    t'.distance? origin destination = t.distance? origin destination
  serviceAreaRates : ∀ code, t.serviceAreaRates code <+: t'.serviceAreaRates code
  baseLinehaul : t.baseLinehaul <+: t'.baseLinehaul
  shorthaul : t.shorthaul <+: t'.shorthaul
  routeDiscounts : ∀ area region, t.routeDiscounts area region <+: t'.routeDiscounts area region

namespace GrowsTo

theorem refl (t : Tariff) : t.GrowsTo t where
  zip3? _ := rfl
  distance? _ _ := rfl
  serviceAreaRates _ := List.prefix_rfl
  baseLinehaul := List.prefix_rfl
  shorthaul := List.prefix_rfl
  routeDiscounts _ _ := List.prefix_rfl

theorem trans {a b d : Tariff} (h : a.GrowsTo b) (h' : b.GrowsTo d) : a.GrowsTo d where
  zip3? zip3 := (h'.zip3? zip3).trans (h.zip3? zip3)
  distance? origin destination :=
    (h'.distance? origin destination).trans (h.distance? origin destination)
  serviceAreaRates code := (h.serviceAreaRates code).trans (h'.serviceAreaRates code)
  baseLinehaul := h.baseLinehaul.trans h'.baseLinehaul
  shorthaul := h.shorthaul.trans h'.shorthaul
  routeDiscounts area region := (h.routeDiscounts area region).trans (h'.routeDiscounts area region)

end GrowsTo

/-! ### Additions -/

/-- Pushing a row lengthens groups at their end. -/
theorem prefix_group_push {κ ν : Type} [DecidableEq κ] (t : Table κ (List ν)) (k j : κ) (v : ν) :
    t.group j <+: (t.push k v).group j := by
  rw [Table.group_push]
  split
  · exact List.prefix_append _ _
  · exact List.prefix_rfl

/-- One rate more. -/
theorem growsTo_add (t : Tariff) {row : TariffRow} (h : row.IsRate) : t.GrowsTo (t.add row) := by
  have hrefl := GrowsTo.refl t
  cases row with
  | zip3 r => cases h
  | distance r => cases h
  | serviceArea r =>
    exact { hrefl with
      serviceAreaRates := fun code => prefix_group_push t.serviceAreas r.serviceArea code r }
  | baseLinehaul r => exact { hrefl with baseLinehaul := List.prefix_append t.baseLinehaul [r] }
  | shorthaul r => exact { hrefl with shorthaul := List.prefix_append t.shorthaul [r] }
  | discount r =>
    exact { hrefl with
      routeDiscounts := fun area region =>
        prefix_group_push t.discounts r.route (area, region) r }

/-- Any number of rates more, by induction on them. -/
theorem growsTo_addAll (t : Tariff) {rows : List TariffRow} (h : ∀ row ∈ rows, row.IsRate) :
    t.GrowsTo (t.addAll rows) := by
  induction rows generalizing t with
  | nil => exact GrowsTo.refl t
  | cons row rows ih =>
    obtain ⟨hrow, hrows⟩ := List.forall_mem_cons.1 h
    exact (t.growsTo_add hrow).trans (ih (t.add row) hrows)

/-! ### Look-ups after additions -/

/-- A row that was the only one in effect is selected, or is in doubt now. -/
theorem selectEffective_of_prefix {ρ : Type} [EffectiveDated ρ] {rows rows' : List ρ}
    (h : rows <+: rows') {table : TariffTable} {key : String} {date : Date} {row : ρ}
    (hrow : selectEffective rows table key date = .ok row) :
    selectEffective rows' table key date = .ok row ∨
      selectEffective rows' table key date = .error (.ambiguousRate table key date) := by
  have hprefix := h.filter (appliesOn date)
  rw [selectEffective_eq_ok_iff.1 hrow] at hprefix
  -- the row still comes first among those in effect
  obtain ⟨others, hothers⟩ := hprefix
  cases others with
  | nil => exact .inl (selectEffective_eq_ok_iff.2 hothers.symm)
  | cons other others =>
    right
    unfold selectEffective
    rw [← hothers]
    rfl

section

variable {t t' : Tariff} (h : t.GrowsTo t')

include h

theorem GrowsTo.zip3Row (zip3 : UInt32) : t'.zip3Row zip3 = t.zip3Row zip3 := by
  unfold Tariff.zip3Row
  rw [h.zip3?]

theorem GrowsTo.serviceAreaFor {zip3 : UInt32} {date : Date} {area : ServiceAreaRate}
    (harea : t.serviceAreaFor zip3 date = .ok area) :
    t'.serviceAreaFor zip3 date = .ok area ∨
      ∃ table key, t'.serviceAreaFor zip3 date = .error (.ambiguousRate table key date) := by
  obtain ⟨row, hrow, hselect⟩ := bind_eq_ok_iff.1 harea
  rw [zip3Row_eq_ok_iff] at hrow
  rw [serviceAreaFor_eq_of_zip3? ((h.zip3? zip3).trans hrow)]
  rcases selectEffective_of_prefix (h.serviceAreaRates row.serviceArea) hselect with h' | h'
  · exact .inl h'
  · exact .inr ⟨_, _, h'⟩

theorem GrowsTo.resolveDiscount {origin destination : UInt32} {date : Date}
    {discount : RouteDiscount}
    (hdiscount : t.resolveDiscount origin destination date = .ok discount) :
    t'.resolveDiscount origin destination date = .ok discount ∨
      ∃ table key,
        t'.resolveDiscount origin destination date = .error (.ambiguousRate table key date) := by
  obtain ⟨originRow, destinationRow, row, ho, hd, hrow, hrowDiscount⟩ :=
    resolveDiscount_eq_ok_iff.1 hdiscount
  rw [resolveDiscount_eq_of_zip3? ((h.zip3? _).trans ho) ((h.zip3? _).trans hd)]
  rcases selectEffective_of_prefix (h.routeDiscounts _ _) (selectEffective_eq_ok_iff.2 hrow) with
    h' | h'
  · rw [h']
    exact .inl hrowDiscount
  · -- a doubt about the row is not taken for a missing discount
    rw [h']
    exact .inr ⟨_, _, rfl⟩

/-- The bracket that was the first to hold a shipment still is. -/
theorem GrowsTo.lookups : Comparison.unlessAmbiguous.Lookups t t' where
  zip3Row zip3 := by
    rw [h.zip3Row]
    exact Comparison.refl _ _
  milesBetween origin destination := by
    unfold Tariff.milesBetween
    rw [h.distance?]
    exact Comparison.refl _ _
  serviceAreaFor zip3 date := by
    intro area harea
    rw [lift_refusal, mapError_eq_ok_iff] at harea
    rcases h.serviceAreaFor harea with h' | ⟨table, key, h'⟩
    · rw [h']
      exact .inl rfl
    · rw [h']
      exact .inr ⟨table, key, date, rfl⟩
  baseLinehaulCharge mileage cwt := by
    intro charge hcharge
    obtain ⟨bracket, hbracket, hrate⟩ := baseLinehaulCharge_eq_ok_iff.1 hcharge
    have hfirst := h.baseLinehaul.find?_eq_some hbracket
    exact .inl (baseLinehaulCharge_eq_ok_iff.2 ⟨bracket, hfirst, hrate⟩)
  shorthaulCharge mileage cwt := by
    intro charge hcharge
    obtain ⟨cwtMiles, hproduct, bracket, hbracket, hrate⟩ := shorthaulCharge_eq_ok_iff.1 hcharge
    have hfirst := h.shorthaul.find?_eq_some hbracket
    exact .inl (shorthaulCharge_eq_ok_iff.2 ⟨cwtMiles, hproduct, bracket, hfirst, hrate⟩)
  resolveDiscount origin destination date := by
    intro discount hdiscount
    rw [lift_refusal, mapError_eq_ok_iff] at hdiscount
    rcases h.resolveDiscount hdiscount with h' | ⟨table, key, h'⟩
    · rw [h']
      exact .inl rfl
    · rw [h']
      exact .inr ⟨table, key, date, rfl⟩

end

/-- Whatever rates are added to a tariff, each of its answers stays as it is or is refused for an
ambiguous rate. -/
theorem perform_addAll_of_ok (t : Tariff) (rows : List TariffRow)
    (hrows : ∀ row ∈ rows, row.IsRate) {α : Type} (op : Operation α) (a : α)
    (ha : t.perform op = .ok a) :
    (t.addAll rows).perform op = .ok a ∨ ((t.addAll rows).perform op).Ambiguous :=
  Comparison.rel_perform (t.growsTo_addAll hrows).lookups op a ha

/-- Rates that come late: a bracket over one that is there, an empty one, the rates of the next year
and a discount whose range is turned round. -/
def lateRates : List TariffRow :=
  [.shorthaul ⟨0, 200000, ⟨9⟩⟩, .baseLinehaul ⟨900, 800, 1, 1, ⟨7⟩⟩,
    .serviceArea { RateSheet.sample.originArea with
      linehaulFactor := ⟨99⟩
      effective := .nextSample },
    .discount { RateSheet.sample.discount with
      effective := ⟨EffectiveRange.sample.upper, EffectiveRange.sample.lower⟩ }]

/-- The estimate for the sample request stays, until the rates of an area are added twice. -/
theorem perform_addAll_lateRates : ∃ e,
    sample.perform (.estimatePpm .sample) = .ok e ∧
      (sample.addAll lateRates).perform (.estimatePpm .sample) = .ok e ∧
      ((sample.addAll [.serviceArea RateSheet.sample.originArea]).perform
        (.estimatePpm .sample)).Ambiguous := by
  have hanswered : (sample.perform (.estimatePpm .sample)).isOk = true := by decide +kernel
  have hlate : ((sample.addAll lateRates).perform (.estimatePpm .sample)).isOk = true := by
    decide +kernel
  have htwice : ((sample.addAll [.serviceArea RateSheet.sample.originArea]).perform
      (.estimatePpm .sample)).isOk = false := by
    decide +kernel
  obtain ⟨e, he⟩ := isOk_eq_true_iff.1 hanswered
  refine ⟨e, he, ?_, ?_⟩
  · rcases perform_addAll_of_ok sample lateRates (by simp [lateRates, TariffRow.IsRate])
      (.estimatePpm .sample) e he with h | ⟨table, key, date, h⟩
    · exact h
    · rw [h] at hlate
      cases hlate
  · rcases perform_addAll_of_ok sample [.serviceArea RateSheet.sample.originArea]
      (by simp [TariffRow.IsRate]) (.estimatePpm .sample) e he with h | h
    · rw [h] at htwice
      cases htwice
    · exact h

end Tariff

end MoveRating
