/-!
Finite binary64 numbers, held exactly as a significand times a power of two, with rounding to the
nearest number and ties to the even one.
-/

namespace PrivateComputation

/-- The number `± significand · 2 ^ exponent`. -/
structure Binary64 where
  negative : Bool
  significand : Nat
  exponent : Int
  deriving DecidableEq, Inhabited

def Binary64.hiddenBit : Nat := 4503599627370496

def scaledRatio (significand : Nat) (exponent : Int) : Nat × Nat :=
  if 0 ≤ exponent then (significand * Nat.pow 2 exponent.toNat, 1)
  else (significand, Nat.pow 2 (-exponent).toNat)

def roundHalfEven (numerator denominator : Nat) : Nat :=
  let whole := numerator / denominator
  let twice := 2 * (numerator % denominator)
  if denominator < twice || (twice = denominator && whole % 2 = 1) then whole + 1 else whole

def floorLog2 (numerator denominator : Nat) : Int :=
  let estimate : Int := (Nat.log2 numerator : Int) - (Nat.log2 denominator : Int)
  let (power, unit) := scaledRatio 1 estimate
  if denominator * power ≤ numerator * unit then estimate else estimate - 1

/-- The significand and exponent nearest to a quotient; `none` when they do not fit the format. -/
def nearestParts (numerator denominator : Nat) : Option (Nat × Int) :=
  if numerator = 0 then some (0, -1074)
  else
    let exponent := max (floorLog2 numerator denominator - 52) (-1074)
    let (unit, scale) := scaledRatio 1 exponent
    let rounded := roundHalfEven (numerator * scale) (denominator * unit)
    let (significand, exponent) :=
      if rounded = 2 * Binary64.hiddenBit then (Binary64.hiddenBit, exponent + 1)
      else (rounded, exponent)
    if 971 < exponent then none else some (significand, exponent)

namespace Binary64

def zero (negative : Bool) : Binary64 := ⟨negative, 0, -1074⟩

def isZero (number : Binary64) : Bool := number.significand == 0

def ofRatio? (negative : Bool) (numerator denominator : Nat) : Option Binary64 :=
  (nearestParts numerator denominator).map (fun parts => ⟨negative, parts.1, parts.2⟩)

/-- The number nearest to `significand · 10 ^ exponent`. An exponent far out of range is not worked
out: the number is too large, or it is zero. -/
def ofDecimal? (negative : Bool) (significand : Nat) (exponent : Int) : Option Binary64 :=
  if significand = 0 ∨ (Nat.log2 significand : Int) + exponent < -400 then some (zero negative)
  else if 400 < exponent then none
  else if 0 ≤ exponent then ofRatio? negative (significand * Nat.pow 10 exponent.toNat) 1
  else ofRatio? negative significand (Nat.pow 10 (-exponent).toNat)

def mul? (left right : Binary64) : Option Binary64 :=
  let (numerator, denominator) :=
    scaledRatio (left.significand * right.significand) (left.exponent + right.exponent)
  ofRatio? (left.negative != right.negative) numerator denominator

def div? (left right : Binary64) : Option Binary64 :=
  let (numerator, denominator) := scaledRatio left.significand (left.exponent - right.exponent)
  ofRatio? (left.negative != right.negative) numerator (denominator * right.significand)

/-- Two numbers of the same value: the two zeros are equal. -/
def sameValue (left right : Binary64) : Bool :=
  left == right || (left.isZero && right.isZero)

end Binary64

end PrivateComputation
