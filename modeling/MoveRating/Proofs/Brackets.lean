import Mathlib.Data.Fin.VecNotation
import Mathlib.Data.List.ProdSigma
import Mathlib.Order.Fin.Basic
import MoveRating.Proofs.ExactPricing

/-!
# Brackets side by side

Brackets between cut points cover what lies between the first and the last of these, each figure
once.

* `CutPoints.spans_iff` and `CutPoints.holds_unique`: a figure between the first and the last cut
  point is in one bracket, and in no other.
* `CutPoints.shorthaulRates` and `CutPoints.linehaulRates` are the tables of brackets between cut
  points, on one axis and on two.
* `BracketLaw` says what a shipment is charged by such a table, and `bracketLaw_charges` that the
  charges of a tariff keep it, in whatever order the rows were entered.
-/

namespace MoveRating

open Reckoning

/-- Increasing words, where one bracket ends and the next one begins. -/
structure CutPoints {ω : Type} (value : ω → Int) (n : Nat) where
  /-- The words, one more than there are brackets. -/
  cut : Fin (n + 1) → ω
  /-- They denote increasing integers. -/
  increasing : ∀ i j, i < j → value (cut i) < value (cut j)

/-- Cut points among mileages. -/
abbrev MileageCuts (m : Nat) := CutPoints (fun miles : UInt32 => (miles.toNat : Int)) m

/-- Cut points among weights or among figures of hundredweight-miles. -/
abbrev WordCuts (n : Nat) := CutPoints Int64.toInt n

namespace CutPoints

section

variable {ω : Type} {value : ω → Int} {n : Nat} (c : CutPoints value n)

/-- The bracket holds its lower cut point, but not its upper one. -/
def Holds (i : Fin n) (x : Int) : Prop :=
  value (c.cut i.castSucc) ≤ x ∧ x < value (c.cut i.succ)

/-- The integer is neither below the first nor above the last bracket. -/
def Spans (x : Int) : Prop := value (c.cut 0) ≤ x ∧ x < value (c.cut (Fin.last n))

variable {c} {x : Int}

theorem value_cut_le {i j : Fin (n + 1)} (h : i ≤ j) : value (c.cut i) ≤ value (c.cut j) := by
  rcases Fin.lt_or_eq_of_le h with hlt | rfl
  · exact Int.le_of_lt (c.increasing i j hlt)
  · exact Int.le_refl _

theorem not_lt_of_holds {i j : Fin n} (hi : c.Holds i x) (hj : c.Holds j x) : ¬i < j := by
  intro hlt
  have hcut : value (c.cut i.succ) ≤ value (c.cut j.castSucc) :=
    value_cut_le (Fin.succ_le_castSucc_iff.2 hlt)
  exact absurd (Int.lt_of_lt_of_le hi.2 (Int.le_trans hcut hj.1)) (Int.lt_irrefl x)

theorem holds_unique {i j : Fin n} (hi : c.Holds i x) (hj : c.Holds j x) : i = j :=
  le_antisymm (not_lt.1 (not_lt_of_holds hj hi)) (not_lt.1 (not_lt_of_holds hi hj))

/-- By induction on the cut point above the integer. -/
theorem exists_holds_of_lt (hlower : value (c.cut 0) ≤ x) (k : Fin (n + 1))
    (hupper : x < value (c.cut k)) : ∃ i, c.Holds i x := by
  induction k using Fin.induction with
  | zero => exact absurd hupper (Int.not_lt.2 hlower)
  | succ i ih =>
    by_cases hi : x < value (c.cut i.castSucc)
    · exact ih hi
    · exact ⟨i, Int.not_lt.1 hi, hupper⟩

theorem spans_iff : c.Spans x ↔ ∃ i, c.Holds i x := by
  constructor
  · rintro ⟨hlower, hupper⟩
    exact exists_holds_of_lt hlower (Fin.last n) hupper
  · rintro ⟨i, hlower, hupper⟩
    exact ⟨Int.le_trans (value_cut_le (Fin.zero_le _)) hlower,
      Int.lt_of_lt_of_le hupper (value_cut_le (Fin.le_last _))⟩

end

/-- The shorthaul bracket between two cut points. -/
def shorthaulRate {n : Nat} (c : WordCuts n) (rate : Fin n → Cents) (i : Fin n) : ShorthaulRate :=
  ⟨c.cut i.castSucc, c.cut i.succ, rate i⟩

/-- The shorthaul brackets side by side. -/
def shorthaulRates {n : Nat} (c : WordCuts n) (rate : Fin n → Cents) : List ShorthaulRate :=
  (List.finRange n).map (c.shorthaulRate rate)

/-- The longhaul bracket between two cut points on each axis. -/
def linehaulRate {m n : Nat} (miles : MileageCuts m) (weights : WordCuts n)
    (rate : Fin m × Fin n → Cents) (i : Fin m × Fin n) : BaseLinehaulRate :=
  ⟨miles.cut i.1.castSucc, miles.cut i.1.succ, weights.cut i.2.castSucc, weights.cut i.2.succ,
    rate i⟩

/-- The longhaul brackets of a grid. -/
def linehaulRates {m n : Nat} (miles : MileageCuts m) (weights : WordCuts n)
    (rate : Fin m × Fin n → Cents) : List BaseLinehaulRate :=
  (List.finRange m ×ˢ List.finRange n).map (miles.linehaulRate weights rate)

@[simp] theorem mem_shorthaulRates {n : Nat} {c : WordCuts n} {rate : Fin n → Cents}
    {row : ShorthaulRate} : row ∈ c.shorthaulRates rate ↔ ∃ i, c.shorthaulRate rate i = row := by
  simp [shorthaulRates]

@[simp] theorem mem_linehaulRates {m n : Nat} {miles : MileageCuts m} {weights : WordCuts n}
    {rate : Fin m × Fin n → Cents} {row : BaseLinehaulRate} :
    row ∈ miles.linehaulRates weights rate ↔ ∃ i, miles.linehaulRate weights rate i = row := by
  simp [linehaulRates]

theorem holds_shorthaulRate {n : Nat} {c : WordCuts n} {rate : Fin n → Cents} {i : Fin n}
    {cwtMiles : Int} : (c.shorthaulRate rate i).holds cwtMiles = true ↔ c.Holds i cwtMiles :=
  ShorthaulRate.holds_iff

theorem holds_linehaulRate {m n : Nat} {miles : MileageCuts m} {weights : WordCuts n}
    {rate : Fin m × Fin n → Cents} {i : Fin m × Fin n} {mileage : UInt32} {cwt : Int} :
    (miles.linehaulRate weights rate i).holds mileage cwt = true ↔
      miles.Holds i.1 mileage.toNat ∧ weights.Holds i.2 cwt := by
  rw [BaseLinehaulRate.holds_iff, UInt32.le_iff_toNat_le, UInt32.lt_iff_toNat_lt]
  unfold Holds
  rw [Int.ofNat_le, Int.ofNat_lt]
  rfl

end CutPoints

/-- What a shipment is charged by a table of brackets: the rate of its only bracket per
hundredweight, or nothing if the brackets do not span it. -/
structure BracketLaw {ι : Type} (holds : ι → Prop) (spans : Prop) (rate : ι → Cents) (cwt : Cwt)
    (table : TariffTable) (key : String) (charge : Priced Cents) : Prop where
  /-- A shipment that the brackets span is in one of them and in no other. -/
  bracket : spans ↔ ∃! i, holds i
  /-- It is charged by the rate of this bracket. -/
  charged : ∀ i, holds i → ∀ amount, charge = .ok amount ↔
    amount.toInt = (rate i).toInt * cwt.toInt
  /-- For any other shipment there is no row. -/
  noRow : ∀ table' key', charge = .error (.refused (.noRow table' key')) ↔
    ¬spans ∧ table' = table ∧ key' = key

/-! ### The first bracket of several -/

section

variable {ι ρ : Type} {rows : List ρ} {row : ι → ρ} {p : ρ → Bool}
  (hrows : ∀ r, r ∈ rows ↔ ∃ i, row i = r)

include hrows

/-- Only one row is looked for, so the order of the rows does not matter. -/
theorem find?_eq_some_of_unique {i : ι} (hi : p (row i) = true)
    (hunique : ∀ j, p (row j) = true → i = j) : rows.find? p = some (row i) := by
  cases hfind : rows.find? p with
  | none => exact absurd hi (List.find?_eq_none.1 hfind _ ((hrows _).2 ⟨i, rfl⟩))
  | some r =>
    obtain ⟨j, rfl⟩ := (hrows r).1 (List.mem_of_find?_eq_some hfind)
    rw [hunique j (List.find?_some hfind)]

theorem find?_eq_none_iff : rows.find? p = none ↔ ∀ i, ¬p (row i) = true := by
  rw [List.find?_eq_none]
  constructor
  · intro h i
    exact h _ ((hrows _).2 ⟨i, rfl⟩)
  · intro h r hr
    obtain ⟨i, rfl⟩ := (hrows r).1 hr
    exact h i

end

/-! ### Charges -/

section

variable {ι ρ : Type} {rows : List ρ} {p : ρ → Bool} {rate : ρ → Cents} {holds : ι → Prop}
  {spans : Prop} {cwt : Cwt} {table : TariffTable} {key : String} {charge : Priced Cents}

/-- A charge by the first row that holds a shipment keeps the law. -/
theorem bracketLaw_of_inWords (row : ι → ρ) (hrows : ∀ r, r ∈ rows ↔ ∃ i, row i = r)
    (hholds : ∀ i, p (row i) = true ↔ holds i) (hspans : spans ↔ ∃ i, holds i)
    (hunique : ∀ i j, holds i → holds j → i = j)
    (h : InWords Cents.toInt charge
      (lookup (Tariff.require table key ((rows.find? p).map rate)) >>= fun rate =>
        figure .product (rate.toInt * cwt.toInt))) :
    BracketLaw holds spans (fun i => rate (row i)) cwt table key charge where
  bracket := by
    rw [hspans]
    constructor
    · rintro ⟨i, hi⟩
      exact ⟨i, hi, fun j hj => hunique j i hj hi⟩
    · rintro ⟨i, hi, -⟩
      exact ⟨i, hi⟩
  charged i hi amount := by
    have hfind := find?_eq_some_of_unique hrows ((hholds i).2 hi)
      fun j hj => hunique i j hi ((hholds j).1 hj)
    rw [hfind] at h
    exact inWords_figure_eq_ok_iff h
  noRow table' key' := by
    have hnone : (rows.find? p).map rate = none ↔ ¬spans := by
      rw [Option.map_eq_none_iff, find?_eq_none_iff hrows, hspans, not_exists]
      exact forall_congr' fun i => not_congr (hholds i)
    rw [h.refused_iff, result_bind, result_lookup, bind_eq_error_iff, Tariff.require_eq_error_iff,
      hnone]
    constructor
    · rintro ⟨-, ⟨hout, heq⟩ | ⟨r, -, heq⟩⟩
      · cases heq
        exact ⟨hout, rfl, rfl⟩
      · cases heq
    · rintro ⟨hout, rfl, rfl⟩
      rw [hnone.2 hout]
      exact ⟨nofun, .inl ⟨hout, rfl⟩⟩

end

/-- Brackets between cut points charge each shipment that they span by the one bracket that it is
in, and no other shipment. It does not matter in which order their rows were entered. -/
theorem bracketLaw_charges (t : Tariff) (mileage : UInt32) (cwt : Cwt) :
    (∀ {n : Nat} (cuts : WordCuts n) (rate : Fin n → Cents),
      t.shorthaul.Perm (cuts.shorthaulRates rate) → Fits (mileage.toNat * cwt.toInt) →
        BracketLaw (fun i => cuts.Holds i (mileage.toNat * cwt.toInt))
          (cuts.Spans (mileage.toNat * cwt.toInt)) rate cwt .shorthaul
          (Numeral.signedText (mileage.toNat * cwt.toInt) ++ " cwt-miles")
          (t.shorthaulCharge mileage cwt)) ∧
      ∀ {m n : Nat} (miles : MileageCuts m) (weights : WordCuts n)
        (rate : Fin m × Fin n → Cents),
        t.baseLinehaul.Perm (miles.linehaulRates weights rate) →
          BracketLaw (fun i => miles.Holds i.1 mileage.toNat ∧ weights.Holds i.2 cwt.toInt)
            (miles.Spans mileage.toNat ∧ weights.Spans cwt.toInt) rate cwt .baseLinehaul
            (Numeral.text mileage.toNat ++ " miles, " ++ cwt.text)
            (t.baseLinehaulCharge mileage cwt) := by
  constructor
  · intro n cuts rate hrows hproduct
    exact bracketLaw_of_inWords (cuts.shorthaulRate rate)
      (fun r => hrows.mem_iff.trans CutPoints.mem_shorthaulRates)
      (fun i => CutPoints.holds_shorthaulRate) CutPoints.spans_iff
      (fun i j => CutPoints.holds_unique)
      (InWords.of_figure hproduct (inWords_shorthaulCharge mileage cwt))
  · intro m n miles weights rate hrows
    -- a shipment is in a cell of the grid if it is in a bracket on each axis
    have hspans : miles.Spans mileage.toNat ∧ weights.Spans cwt.toInt ↔
        ∃ i : Fin m × Fin n, miles.Holds i.1 mileage.toNat ∧ weights.Holds i.2 cwt.toInt := by
      rw [CutPoints.spans_iff, CutPoints.spans_iff, Prod.exists, exists_and_exists_comm]
    exact bracketLaw_of_inWords (miles.linehaulRate weights rate)
      (fun r => hrows.mem_iff.trans CutPoints.mem_linehaulRates)
      (fun i => CutPoints.holds_linehaulRate) hspans
      (fun i j hi hj =>
        Prod.ext (CutPoints.holds_unique hi.1 hj.1) (CutPoints.holds_unique hi.2 hj.2))
      (inWords_baseLinehaulCharge mileage cwt)

/-- Cut points for two shorthaul brackets. -/
def CutPoints.sample : WordCuts 2 := ⟨![0, 100, 250], by decide⟩

/-- Cut points for two columns of longhaul brackets. -/
def CutPoints.sampleMiles : MileageCuts 2 := ⟨![800, 1000, 1500], by decide⟩

/-- The brackets between these cut points, with the last ones entered first. -/
def Tariff.reversedBrackets : Tariff :=
  { Tariff.empty with
    shorthaul := (CutPoints.sample.shorthaulRates ![⟨7⟩, ⟨5⟩]).reverse
    baseLinehaul := (CutPoints.sampleMiles.linehaulRates CutPoints.sample
      fun i => ![![⟨10⟩, ⟨20⟩], ![⟨30⟩, ⟨40⟩]] i.1 i.2).reverse }

/-- A figure on a cut point is in the bracket above it, and one on the last is in none. -/
theorem bracketLaw_charges_reversed :
    Tariff.reversedBrackets.shorthaulCharge 10 ⟨10⟩ = .ok ⟨50⟩ ∧
      Tariff.reversedBrackets.shorthaulCharge 25 ⟨10⟩ =
        .error (.refused (.noRow .shorthaul "250 cwt-miles")) ∧
      Tariff.reversedBrackets.baseLinehaulCharge 1000 ⟨99⟩ = .ok ⟨2970⟩ ∧
      Tariff.reversedBrackets.baseLinehaulCharge 1500 ⟨99⟩ =
        .error (.refused (.noRow .baseLinehaul "1500 miles, 99 cwt")) := by
  have hshort (mileage : UInt32) (cwt : Cwt) :=
    (bracketLaw_charges Tariff.reversedBrackets mileage cwt).1 _ _ (List.reverse_perm _)
  have hlong (mileage : UInt32) (cwt : Cwt) :=
    (bracketLaw_charges Tariff.reversedBrackets mileage cwt).2 _ _ _ (List.reverse_perm _)
  refine ⟨?_, ?_, ?_, ?_⟩
  · exact ((hshort 10 ⟨10⟩ (by decide)).charged 1 ⟨by decide, by decide⟩ ⟨50⟩).2 (by decide)
  · exact ((hshort 25 ⟨10⟩ (by decide)).noRow _ _).2
      ⟨fun h => absurd h.2 (by decide), rfl, by decide⟩
  · exact ((hlong 1000 ⟨99⟩).charged (1, 0) ⟨⟨by decide, by decide⟩, by decide, by decide⟩
      ⟨2970⟩).2 (by decide)
  · exact ((hlong 1500 ⟨99⟩).noRow _ _).2 ⟨fun h => absurd h.1.2 (by decide), rfl, by decide⟩

end MoveRating
