import PrivateComputation.Number.Binary64

/-!
The shortest decimal that reads back as a given binary64 number, and how it is written.
-/

namespace PrivateComputation

structure Decimal where
  digits : Nat
  exponent : Int
  deriving DecidableEq

/-- The exponent of the largest power of ten that is at most a positive quotient, sought upwards
from a lower bound. -/
def floorLog10 (numerator denominator : Nat) : Nat → Int → Int
  | 0, bound => bound
  | fuel + 1, bound =>
      let next := bound + 1
      let reached :=
        if 0 ≤ next then denominator * Nat.pow 10 next.toNat ≤ numerator
        else denominator ≤ numerator * Nat.pow 10 (-next).toNat
      if reached then floorLog10 numerator denominator fuel next else bound

/-- A digit count with a grid point inside the interval of a number, tried in ascending order. The
interval is given by its ends over a common denominator, which belong to it for an even
significand. -/
def firstGridPoint (low value high denominator : Nat) (closed : Bool) (magnitude : Int) :
    Nat → Nat → Option Decimal
  | 0, _ => none
  | fuel + 1, count =>
      let exponent := magnitude - (count : Int) + 1
      let (unit, scale) :=
        if 0 ≤ exponent then (Nat.pow 10 exponent.toNat * denominator, 1)
        else (denominator, Nat.pow 10 (-exponent).toNat)
      let below := value * scale / unit
      let inside (digits : Nat) : Bool :=
        if closed then low * scale ≤ digits * unit && digits * unit ≤ high * scale
        else low * scale < digits * unit && digits * unit < high * scale
      let belowGap := value * scale - below * unit
      let aboveGap := (below + 1) * unit - value * scale
      let nearBelow := belowGap < aboveGap || (belowGap = aboveGap && below % 2 = 0)
      match inside below, inside (below + 1) with
      | true, true => some ⟨if nearBelow then below else below + 1, exponent⟩
      | true, false => some ⟨below, exponent⟩
      | false, true => some ⟨below + 1, exponent⟩
      | false, false => firstGridPoint low value high denominator closed magnitude fuel (count + 1)

def Decimal.trim : Nat → Decimal → Decimal
  | 0, decimal => decimal
  | fuel + 1, decimal =>
      if decimal.digits ≠ 0 && decimal.digits % 10 = 0 then
        trim fuel ⟨decimal.digits / 10, decimal.exponent + 1⟩
      else decimal

/-- The shortest decimal that rounds to the magnitude of a number, the nearest of several. -/
def Binary64.shortest (number : Binary64) : Decimal :=
  if number.isZero then ⟨0, 0⟩
  else
    let lowerGap : Nat :=
      if number.significand = Binary64.hiddenBit && -1074 < number.exponent then 1 else 2
    let (value, denominator) := scaledRatio (4 * number.significand) (number.exponent - 2)
    let (low, _) := scaledRatio (4 * number.significand - lowerGap) (number.exponent - 2)
    let (high, _) := scaledRatio (4 * number.significand + 2) (number.exponent - 2)
    let magnitude := floorLog10 value denominator 700 (-330)
    match firstGridPoint low value high denominator (number.significand % 2 = 0) magnitude 17 1 with
    | some decimal => decimal.trim 20
    | none => ⟨number.significand, 0⟩

def placePoint (digits : List Char) (point : Int) : List Char :=
  if point ≤ 0 then '0' :: '.' :: List.replicate (-point).toNat '0' ++ digits
  else if digits.length ≤ point.toNat then
    digits ++ List.replicate (point.toNat - digits.length) '0' ++ ['.', '0']
  else digits.take point.toNat ++ '.' :: digits.drop point.toNat

def Binary64.signed (number : Binary64) (magnitude : List Char) : String :=
  String.ofList (if number.negative then '-' :: magnitude else magnitude)

def exponentText (exponent : Int) : List Char :=
  let digits := (toString exponent.natAbs).toList
  (if exponent < 0 then '-' else '+') :: (if digits.length < 2 then '0' :: digits else digits)

/-- Positional notation for sizes from `10 ^ -5` up to `10 ^ 16`, scientific notation beyond. -/
def Binary64.compact (number : Binary64) : String :=
  let decimal := number.shortest
  let digits := (toString decimal.digits).toList
  let point : Int := digits.length + decimal.exponent
  if number.isZero || (-5 < point && point ≤ 16) then number.signed (placePoint digits point)
  else
    let mantissa := if digits.length = 1 then digits else digits.take 1 ++ '.' :: digits.drop 1
    number.signed (mantissa ++ 'e' :: exponentText (point - 1))

end PrivateComputation
