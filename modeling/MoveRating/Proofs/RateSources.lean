import MoveRating.Proofs.Deviation
import MoveRating.Proofs.Json.RoundTrip
import MoveRating.Proofs.Lookup

/-!
# Where rates come from

A rate should lie between zero and one. One that is made does, since the ways to make a rate check
it. One that is read need not.

* `DiscountRate.Made` lists the ways to make a rate, and `RateText` the texts to read one from.
* `DiscountRate.AppliesInFull` says that a rate can be applied to an amount and that the word for
  what is left is not cut.
* `rates_obtained`: rates that are made are those in range, and apply in full to all amounts; each
  rate out of range can be read from each text. `exists_cut_rate` is what becomes of one.
-/

namespace MoveRating

namespace DiscountRate

/-- The ways to make a rate. -/
inductive Made : DiscountRate → Prop
  | zero : Made .zero
  | ofFraction {fraction : Decimal} {rate : DiscountRate} (h : ofFraction fraction = .ok rate) :
    Made rate
  | ofBasisPoints {points : UInt32} {rate : DiscountRate} (h : ofBasisPoints points = .ok rate) :
    Made rate
  | linehaul {t : Tariff} {origin destination : UInt32} {date : Date} {route : RouteDiscount}
    (h : t.resolveDiscount origin destination date = .ok route) : Made route.linehaul
  | sit {t : Tariff} {origin destination : UInt32} {date : Date} {route : RouteDiscount}
    (h : t.resolveDiscount origin destination date = .ok route) : Made route.sit

/-- The exact product that is rounded when the rate is applied, if there is one. -/
def product? (rate : DiscountRate) (gross : Cents) : Option Decimal :=
  rate.fraction.oneMinus?.bind (Decimal.ofWord gross.val).mul?

/-- The rate can be applied to the amount, and leaves the product rounded to whole cents, not only
the low bits of it. -/
def AppliesInFull (rate : DiscountRate) (gross : Cents) : Prop :=
  ∃ product net, rate.product? gross = some product ∧ rate.apply gross = .ok net ∧
    net.toInt = product.nearestInt

end DiscountRate

/-- The texts that a rate is read from, by itself or as part of something else. -/
inductive RateText where
  /-- The rate by itself. -/
  | alone
  /-- The discounts of a route, for the one on linehaul. -/
  | routeLinehaul
  /-- The discounts of a route, for the one on storage. -/
  | routeSit
  /-- An estimate of storage. -/
  | sitEstimate
  /-- An estimate of a move, for the discount on linehaul. -/
  | ppmLinehaul
  /-- An estimate of a move, for the discount on storage. -/
  | ppmSit
deriving DecidableEq, Repr

/-- An estimate of a move for nothing, at one rate for everything. -/
def PpmEstimate.ofRate (rate : DiscountRate) : PpmEstimate :=
  ⟨⟨0, ⟨0⟩, .shorthaul, .zero, .zero, .zero, .zero⟩, .zero, .zero, .zero, ⟨rate, rate⟩,
    .zero, .zero, .zero, .zero, .zero⟩

namespace RateText

/-- Reads the rate. -/
def read : RateText → String → Except Json.Problem DiscountRate
  | alone, text => Json.parse? DiscountRate text
  | routeLinehaul, text => RouteDiscount.linehaul <$> Json.parse? RouteDiscount text
  | routeSit, text => RouteDiscount.sit <$> Json.parse? RouteDiscount text
  | sitEstimate, text => SitEstimate.discountRate <$> Json.parse? SitEstimate text
  | ppmLinehaul, text => (·.discount.linehaul) <$> Json.parse? PpmEstimate text
  | ppmSit, text => (·.discount.sit) <$> Json.parse? PpmEstimate text

/-- Writes a text with the rate in it. -/
def write : RateText → DiscountRate → String
  | alone, rate => Json.write rate
  | routeLinehaul, rate | routeSit, rate => Json.write (RouteDiscount.mk rate rate)
  | sitEstimate, rate => Json.write (SitEstimate.mk .zero rate .zero)
  | ppmLinehaul, rate | ppmSit, rate => Json.write (PpmEstimate.ofRate rate)

end RateText

/-- The rate is made or read. -/
def DiscountRate.Obtained (rate : DiscountRate) : Prop :=
  rate.Made ∨ ∃ (place : RateText) (text : String), place.read text = .ok rate

/-! ### Rates that are made -/

namespace DiscountRate

variable {rate : DiscountRate} {gross : Cents} {product : Decimal}

theorem Made.isUnit (h : rate.Made) : rate.fraction.isUnit = true := by
  cases h with
  | zero => decide
  | ofFraction h =>
    obtain ⟨hunit, rfl⟩ := Tariff.ofFraction_eq_ok_iff.1 h
    exact hunit
  | ofBasisPoints h =>
    obtain ⟨hunit, rfl⟩ := Tariff.ofFraction_eq_ok_iff.1 h
    exact hunit
  | linehaul h => exact (Tariff.isUnit_of_resolveDiscount h).1
  | sit h => exact (Tariff.isUnit_of_resolveDiscount h).2

theorem made_iff : rate.Made ↔ rate.InRange := by
  rw [inRange_iff]
  constructor
  · exact Made.isUnit
  · intro h
    exact .ofFraction (Tariff.ofFraction_eq_ok_iff.2 ⟨h, rfl⟩)

/-! ### Applications -/

theorem product?_eq_some_iff :
    rate.product? gross = some product ↔ ∃ kept, rate.fraction.oneMinus? = some kept ∧
      (Decimal.ofWord gross.val).mul? kept = some product := Option.bind_eq_some_iff

theorem apply_of_product? (h : rate.product? gross = some product) :
    rate.apply gross = .ok ⟨Int64.ofInt product.nearestInt⟩ := by
  obtain ⟨kept, hkept, hproduct⟩ := product?_eq_some_iff.1 h
  unfold apply
  rw [hkept]
  change (orOverflow .decimalProduct ((Decimal.ofWord gross.val).mul? kept) >>= fun net =>
    pure (Cents.mk (Int64.ofInt net.nearestInt))) = _
  rw [hproduct]
  rfl

/-- Nothing is cut off what is left if it fits a word. -/
theorem appliesInFull_iff :
    rate.AppliesInFull gross ↔ ∃ product, rate.product? gross = some product ∧
      Fits product.nearestInt := by
  constructor
  · rintro ⟨product, net, hproduct, -, hnet⟩
    refine ⟨product, hproduct, ?_⟩
    rw [← hnet]
    exact net.fits_toInt
  · rintro ⟨product, hproduct, hfits⟩
    exact ⟨product, _, hproduct, apply_of_product? hproduct, toInt_ofInt_of_fits hfits⟩

instance : Decidable (rate.AppliesInFull gross) :=
  decidable_of_iff ((rate.product? gross).any fun product => decide (Fits product.nearestInt)) <| by
    rw [appliesInFull_iff, Option.any_eq_true]
    simp

theorem InRange.appliesInFull (h : rate.InRange) (gross : Cents) : rate.AppliesInFull gross := by
  have hunit := inRange_iff.1 h
  obtain ⟨kept, product, hkept, hproduct, hnearest⟩ := exists_mul? hunit gross
  refine appliesInFull_iff.2 ⟨product, product?_eq_some_iff.2 ⟨kept, hkept, hproduct⟩, ?_⟩
  rw [hnearest]
  exact fits_netOf hunit gross.fits_toInt

/-! ### Rates that are read -/

/-- Zero is in range, so a rate out of range has no sign of a zero to lose. -/
theorem plain_of_not_inRange (h : ¬rate.InRange) : rate.plain = rate := by
  obtain ⟨negative, magnitude, places, hsize, hplaces⟩ := rate
  cases magnitude with
  | zero =>
    refine absurd (inRange_iff.2 (Decimal.isUnit_iff.2 ?_)) h
    cases negative <;> simp [Decimal.coefficient]
  | succ n => simp [plain, Decimal.plain]

end DiscountRate

theorem RateText.read_write (place : RateText) (rate : DiscountRate) :
    place.read (place.write rate) = .ok rate.plain := by
  cases place with
  | alone => exact DiscountRate.faithful.parse?_write rate
  | routeLinehaul => exact map_eq_ok_iff.2 ⟨_, RouteDiscount.faithful.parse?_write _, rfl⟩
  | routeSit => exact map_eq_ok_iff.2 ⟨_, RouteDiscount.faithful.parse?_write _, rfl⟩
  | sitEstimate => exact map_eq_ok_iff.2 ⟨_, SitEstimate.faithful.parse?_write _, rfl⟩
  | ppmLinehaul => exact map_eq_ok_iff.2 ⟨_, PpmEstimate.faithful.parse?_write _, rfl⟩
  | ppmSit => exact map_eq_ok_iff.2 ⟨_, PpmEstimate.faithful.parse?_write _, rfl⟩

/-! ### All rates -/

/-- A rate is made if it lies between zero and one, and then it applies in full to all amounts. But
no reader checks a rate, so each text may hold any rate out of range as well. Such a rate applies in
full if the difference and the product are decimals and what is left fits a word. -/
theorem rates_obtained (rate : DiscountRate) (gross : Cents) :
    (rate.Made ↔ rate.InRange) ∧
      (rate.InRange → rate.AppliesInFull gross) ∧
      (¬rate.InRange → ∀ place : RateText, place.read (place.write rate) = .ok rate) ∧
      (rate.AppliesInFull gross ↔ ∃ kept product, rate.fraction.oneMinus? = some kept ∧
        (Decimal.ofWord gross.val).mul? kept = some product ∧ Fits product.nearestInt) := by
  refine ⟨DiscountRate.made_iff, fun h => h.appliesInFull gross, fun h place => ?_, ?_⟩
  · rw [place.read_write, DiscountRate.plain_of_not_inRange h]
  · simp only [DiscountRate.appliesInFull_iff, DiscountRate.product?_eq_some_iff]
    constructor
    · rintro ⟨product, ⟨kept, hkept, hproduct⟩, hfits⟩
      exact ⟨kept, product, hkept, hproduct, hfits⟩
    · rintro ⟨kept, product, hkept, hproduct, hfits⟩
      exact ⟨product, ⟨kept, hkept, hproduct⟩, hfits⟩

/-- A discount that adds far more than it should take off. -/
def DiscountRate.farBelow : DiscountRate := ⟨.ofWord (-1000000000000000000)⟩

/-- Half off applies even to the greatest amount. The rate far below zero is read as part of an
estimate of storage. -/
theorem rates_obtained_half :
    DiscountRate.Made ⟨.ofBasisPoints 5000⟩ ∧
      DiscountRate.AppliesInFull ⟨.ofBasisPoints 5000⟩ ⟨Int64.maxValue⟩ ∧
      ¬DiscountRate.farBelow.InRange ∧
      RateText.sitEstimate.read (RateText.sitEstimate.write .farBelow) = .ok .farBelow := by
  have hhalf : DiscountRate.Made ⟨.ofBasisPoints 5000⟩ :=
    .ofBasisPoints (show DiscountRate.ofBasisPoints 5000 = .ok _ from rfl)
  have hbelow : ¬DiscountRate.farBelow.InRange := mt DiscountRate.inRange_iff.1 (by decide)
  obtain ⟨hmade, hfull, -, -⟩ := rates_obtained ⟨.ofBasisPoints 5000⟩ ⟨Int64.maxValue⟩
  obtain ⟨-, -, hread, -⟩ := rates_obtained .farBelow .zero
  exact ⟨hhalf, hfull (hmade.1 hhalf), hbelow, hread hbelow .sitEstimate⟩

/-- A rate far below zero is read. Of ten cents it leaves only the low bits, and it cannot be
applied to the greatest amount at all. -/
theorem exists_cut_rate :
    RateText.alone.read "\"-1000000000000000000\"" = .ok .farBelow ∧
      ¬DiscountRate.farBelow.InRange ∧
      DiscountRate.farBelow.apply ⟨10⟩ = .ok ⟨-8446744073709551606⟩ ∧
      ¬DiscountRate.farBelow.AppliesInFull ⟨10⟩ ∧
      DiscountRate.farBelow.apply ⟨Int64.maxValue⟩ = .error .decimalProduct ∧
      (¬∀ rate : DiscountRate, rate.Obtained → rate.InRange) ∧
      ¬∀ rate : DiscountRate, rate.Obtained → ∀ gross, rate.AppliesInFull gross := by
  have hread : RateText.alone.read "\"-1000000000000000000\"" = .ok .farBelow := by
    decide +kernel
  have hobtained : DiscountRate.farBelow.Obtained := .inr ⟨.alone, _, hread⟩
  have hrange : ¬DiscountRate.farBelow.InRange := mt DiscountRate.inRange_iff.1 (by decide)
  have hfull : ¬DiscountRate.farBelow.AppliesInFull ⟨10⟩ := by decide +kernel
  refine ⟨hread, hrange, by decide +kernel, hfull, by decide +kernel, fun h => ?_, fun h => ?_⟩
  · exact hrange (h _ hobtained)
  · exact hfull (h _ hobtained ⟨10⟩)

end MoveRating
