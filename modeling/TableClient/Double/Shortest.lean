import TableClient.Double.Basic
/-! The fewest decimal digits that read back. A magnitude owns the interval of reals that
round to it, ends included when its mantissa is even. On the decimal grids 10^k, from
coarse to fine, the first grid with a point in the interval gives the digits, and of two
such points the nearer one. All comparisons are exact. -/
namespace TableClient.Double

/-- A decimal magnitude: digits times a power of ten. -/
structure Decimal where
  digits : Nat
  exponent : Int
deriving DecidableEq, Repr

/-- The reals that round to a magnitude, in quarters of the least unit. -/
structure Interval where
  lower : Nat
  centre : Nat
  upper : Nat
  closed : Bool

/-- The gap below a power of two is half as wide as the gap above it. -/
def interval (x : Double) : Interval :=
  let step := 1 <<< x.shift
  let below := if 2 * x.mantissa = mantissaLimit ∧ 0 < x.shift then step else 2 * step
  { lower := 4 * x.units - below
    centre := 4 * x.units
    upper := 4 * x.units + 2 * step
    closed := x.mantissa % 2 == 0 }

/-- Factors that bring a point of the grid and a quarter unit to one common measure. -/
def gridFactors (exponent : Int) : Nat × Nat :=
  (Nat.pow 10 exponent.toNat * (4 * unitsPerOne), Nat.pow 10 (-exponent).toNat)

def Interval.contains (bounds : Interval) (exponent : Int) (digits : Nat) : Bool :=
  let (pointFactor, quarterFactor) := gridFactors exponent
  let point := digits * pointFactor
  let lower := bounds.lower * quarterFactor
  let upper := bounds.upper * quarterFactor
  if bounds.closed then lower ≤ point && point ≤ upper else lower < point && point < upper

/-- The centre's neighbour on the grid at or below it. -/
def Interval.floor (bounds : Interval) (exponent : Int) : Nat :=
  let (pointFactor, quarterFactor) := gridFactors exponent
  bounds.centre * quarterFactor / pointFactor

/-- Whether the upper neighbour is nearer to the centre, or as near and even. -/
def Interval.roundsUp (bounds : Interval) (exponent : Int) (below : Nat) : Bool :=
  let (pointFactor, quarterFactor) := gridFactors exponent
  let excess := bounds.centre * quarterFactor - below * pointFactor
  pointFactor < 2 * excess || (2 * excess == pointFactor && below % 2 == 1)

/-- The point of one grid that stands for the centre, if the interval holds any. -/
def Interval.pointOn? (bounds : Interval) (exponent : Int) : Option Nat :=
  let below := bounds.floor exponent
  let belowIn := 0 < below && bounds.contains exponent below
  let aboveIn := bounds.contains exponent (below + 1)
  match belowIn, aboveIn with
  | true, true => some (if bounds.roundsUp exponent below then below + 1 else below)
  | true, false => some below
  | false, true => some (below + 1)
  | false, false => none

/-- Tries a bounded number of grids, each ten times finer than the one before. -/
def Interval.coarsest (bounds : Interval) : Nat → Int → Decimal
  | 0, exponent => ⟨bounds.floor exponent, exponent⟩
  | grids + 1, exponent =>
    match bounds.pointOn? exponent with
    | some digits => ⟨digits, exponent⟩
    | none => coarsest bounds grids (exponent - 1)

/-- An exponent of ten at or above the magnitude; 30103/100000 bounds the logarithm of two. -/
def exponentAbove (x : Double) : Int :=
  ((x.units.log2 : Int) + 1 - 1074) * 30103 / 100000 + 2

/-- Digits without a trailing zero; 22 grids lie between an upper bound of the exponent
and the seventeenth digit. -/
def shortest (x : Double) : Decimal :=
  if x.isZero then ⟨0, 0⟩ else x.interval.coarsest 22 x.exponentAbove

end TableClient.Double
