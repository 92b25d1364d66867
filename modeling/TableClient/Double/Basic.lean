/-! Finite double-precision numbers as whole multiples of the least unit 2^-1074. A number
is a sign, a mantissa below 2^53 and a shift; every shift but the first needs a full
mantissa, so each magnitude has one form. Results are the nearest such numbers, a tie going
to the even mantissa, computed from exact ratios of natural numbers. Infinities and values
that are no numbers are absent: an operation that would overflow answers none. -/
namespace TableClient

/-- Mantissas have 53 bits. -/
def Double.mantissaLimit : Nat := 0x20000000000000

structure Double where
  negative : Bool
  mantissa : Nat
  shift : Nat
  canonical :
    mantissa < Double.mantissaLimit ∧ (shift = 0 ∨ Double.mantissaLimit ≤ 2 * mantissa) ∧
      shift ≤ 2045
deriving DecidableEq, Repr

namespace Double

/-- How many least units make one. -/
def unitsPerOne : Nat := 1 <<< 1074

/-- The magnitude in least units. -/
def units (x : Double) : Nat := x.mantissa <<< x.shift

def zero (negative : Bool) : Double := ⟨negative, 0, 0, by decide⟩

def isZero (x : Double) : Bool := x.mantissa == 0

def isPositive (x : Double) : Bool := !x.negative && !x.isZero

def neg (x : Double) : Double := { x with negative := !x.negative }

/-- The number of a sign, mantissa and shift in their one form; none past the largest. -/
def ofParts? (negative : Bool) (mantissa shift : Nat) : Option Double :=
  if canonical :
      mantissa < mantissaLimit ∧ (shift = 0 ∨ mantissaLimit ≤ 2 * mantissa) ∧ shift ≤ 2045 then
    some ⟨negative, mantissa, shift, canonical⟩
  else none

/-- The whole number nearest to a ratio; a tie goes to the even one. -/
def nearestEven (numerator denominator : Nat) : Nat :=
  let quotient := numerator / denominator
  let remainder := numerator % denominator
  if denominator < 2 * remainder ∨ (2 * remainder = denominator ∧ quotient % 2 = 1) then
    quotient + 1
  else quotient

/-- The least shift at which a magnitude in units fits a mantissa of 53 bits. -/
def shiftFor (magnitude : Nat) : Nat := if magnitude = 0 then 0 else magnitude.log2 - 52

/-- The number nearest to a ratio of units. -/
def ofUnitRatio? (negative : Bool) (numerator denominator : Nat) : Option Double :=
  let shift := shiftFor (numerator / denominator)
  let mantissa := nearestEven numerator (denominator <<< shift)
  if mantissa = mantissaLimit then ofParts? negative (mantissaLimit / 2) (shift + 1)
  else ofParts? negative mantissa shift

/-- The number nearest to a ratio. -/
def ofRatio? (negative : Bool) (numerator denominator : Nat) : Option Double :=
  ofUnitRatio? negative (numerator * unitsPerOne) denominator

/-- The number nearest to a natural number. -/
def ofNat? (n : Nat) : Option Double := ofRatio? false n 1

def mul? (x y : Double) : Option Double :=
  ofUnitRatio? (x.negative != y.negative) (x.units * y.units) unitsPerOne

/-- The quotient; none for a divisor of zero. -/
def div? (x y : Double) : Option Double :=
  if y.isZero then none
  else ofUnitRatio? (x.negative != y.negative) (x.units * unitsPerOne) y.units

/-- The number nearest to a power of ten. -/
def tenPow? (exponent : Nat) : Option Double := ofNat? (Nat.pow 10 exponent)

/-- The whole part of the magnitude. -/
def truncate (x : Double) : Nat := x.units / unitsPerOne

def isIntegral (x : Double) : Bool := x.units % unitsPerOne == 0

end Double
end TableClient
