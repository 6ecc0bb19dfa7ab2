import MoveRating.Decimal.Text

/-!
# Binary floating point numbers

Numbers with a point or an exponent are held as binary floating point numbers of 64 bits before
they become decimals.

* `Binary64` is the magnitude of a finite number, in units of `2 ^ -1074`.
* `Binary64.ofRatio?` is the number nearest to a quotient, a tie going to the even significand;
  `mul?` and `div?` are the exact results so rounded.
* `Binary64.shortest` gives the fewest decimal digits that are nearer to the number than to any
  other, and among those the nearest; `Binary64.chars` writes them without an exponent.
-/

namespace MoveRating

/-- The magnitude of a finite number: `significand * 2 ^ unit / 2 ^ 1074`. -/
structure Binary64 where
  /-- The significand, below `2 ^ 53`. -/
  significand : Nat
  /-- The power of two it counts, above the smallest. -/
  unit : Nat
deriving DecidableEq, Repr

namespace Binary64

/-- The power of two below the point in the smallest unit. -/
def smallest : Nat := 1074

/-- The largest unit of a finite number. -/
def largestUnit : Nat := 2045

/-- Zero. -/
def zero : Binary64 := ⟨0, 0⟩

/-- The number as a quotient of natural numbers. -/
def ratio (x : Binary64) : Nat × Nat := (x.significand <<< x.unit, 1 <<< smallest)

/-- The unit in which the significand of `n / d` has 53 bits, or the smallest. -/
def unitOf (n d : Nat) : Nat :=
  let scaled := n <<< smallest / d
  scaled.log2 - 52

/-- The number nearest to `n / d`, unless that lies beyond the finite numbers. -/
def ofRatio? (n d : Nat) : Option Binary64 :=
  let unit := unitOf n d
  let rounded := Rounding.halfEven (n <<< smallest) (d <<< unit)
  let (significand, unit) := if rounded = 1 <<< 53 then (1 <<< 52, unit + 1) else (rounded, unit)
  if largestUnit < unit then none else some ⟨significand, unit⟩

/-- The product of two numbers. -/
def mul? (x y : Binary64) : Option Binary64 :=
  ofRatio? (x.ratio.1 * y.ratio.1) (x.ratio.2 * y.ratio.2)

/-- The quotient of two numbers. -/
def div? (x y : Binary64) : Option Binary64 :=
  ofRatio? (x.ratio.1 * y.ratio.2) (x.ratio.2 * y.ratio.1)

/-- The number nearest to a power of ten. -/
def tenPow? (exponent : Nat) : Option Binary64 := ofRatio? (Numeral.tenPow exponent) 1

/-! ### Shortest digits -/

/-- The number of quarter units from the number down to its lower neighbour's half way. -/
def lowerGap (x : Binary64) : Nat := if x.significand = 1 <<< 52 ∧ 0 < x.unit then 1 else 2

/-- `c * 10 ^ k` lies nearer to `x` than to any other number, where the grid `10 ^ k` is
`grid / base` of a quarter unit. -/
def isNear (x : Binary64) (base grid c : Nat) : Bool :=
  let low := (4 * x.significand - x.lowerGap) * base
  let high := (4 * x.significand + 2) * base
  if x.significand % 2 = 0 then decide (low ≤ c * grid) && decide (c * grid ≤ high)
  else decide (low < c * grid) && decide (c * grid < high)

/-- A quarter of a unit and the grid `10 ^ k`, on a common scale. -/
def scales (x : Binary64) (k : Int) : Nat × Nat :=
  (Numeral.tenPow (-k).toNat <<< x.unit, Numeral.tenPow k.toNat <<< (smallest + 2))

/-- The multiple of `10 ^ k` that lies nearest to `x`, if it is near enough to denote `x`; of two
equally near ones the larger. -/
def onGrid? (x : Binary64) (k : Int) : Option Nat :=
  let (base, grid) := x.scales k
  let below := 4 * x.significand * base / grid
  let above := below + 1
  let nearBelow := isNear x base grid below && decide (0 < below)
  let nearAbove := isNear x base grid above
  let doubled := 2 * (4 * x.significand * base)
  let toBelow : Bool := decide (doubled < (below + above) * grid)
  if nearBelow && (toBelow || !nearAbove) then some below
  else if nearAbove then some above
  else none

/-- The first grid, from `10 ^ k` downwards, on which a multiple denotes the number. -/
def shortestFrom (x : Binary64) : Nat → Int → Nat × Int
  | 0, k => (0, k)
  | fuel + 1, k =>
    match x.onGrid? k with
    | some c => (c, k)
    | none => shortestFrom x fuel (k - 1)

/-- The fewest decimal digits `c` with `c * 10 ^ k` nearer to `x` than to any other number. -/
def shortest (x : Binary64) : Nat × Int :=
  if x.significand = 0 then (0, 0)
  else
    let whole := x.ratio.1 / x.ratio.2
    let start : Int :=
      if whole = 0 then -((x.ratio.2 / x.ratio.1).log2 * 30103 / 100000 : Nat)
      else (whole.log2 * 30103 / 100000 : Nat)
    shortestFrom x 24 (start + 2)

/-- The number in its shortest digits, without exponent. -/
def chars (x : Binary64) : List Char :=
  let (c, k) := x.shortest
  if 0 ≤ k then Numeral.digits c ++ List.replicate k.toNat '0'
  else
    let after := k.natAbs
    let ds := Numeral.padded (after + 1) c
    ds.take (ds.length - after) ++ '.' :: ds.drop (ds.length - after)

end Binary64

/-- The decimal that the shortest digits of a floating point number denote, if it is in range. -/
def Decimal.ofBinary64? (negative : Bool) (x : Binary64) : Option Decimal :=
  ofChars? (if negative then '-' :: x.chars else x.chars)

end MoveRating
