/-!
# Binary64 numbers

Decimal numbers, the binary64 numbers nearest to them, and the shortest decimals that read back. A
binary64 number is a significand below `2 ^ 53` times a power of two. Everything is computed
exactly on natural numbers.
-/

namespace LineEcho

/-- The number `digits * 10 ^ exponent`. -/
structure Decimal where
  digits : Nat
  exponent : Int
  deriving DecidableEq, Repr

/-- The number `significand * 2 ^ exponent`. -/
structure Binary64 where
  significand : Nat
  exponent : Int
  deriving DecidableEq, Repr

/-- A quotient rounded to a whole number, and to the even one of two that are equally near. -/
def roundedQuotient (numerator denominator : Nat) : Nat :=
  let quotient := numerator / denominator
  let twice := 2 * (numerator % denominator)
  if denominator < twice ∨ (twice = denominator ∧ quotient % 2 = 1) then quotient + 1 else quotient

/-- A fraction times a power of a base, again as a fraction. -/
def scaledFraction (base : Nat) (exponent : Int) (numerator denominator : Nat) : Nat × Nat :=
  (numerator * Nat.pow base exponent.toNat, denominator * Nat.pow base (-exponent).toNat)

namespace Binary64

/-- The least significand that has 53 binary digits. -/
def leastNormal : Nat :=
  4503599627370496

def leastExponent : Int :=
  -1074

def greatestExponent : Int :=
  971

/-- The exponent that leaves 53 binary digits before the point, but not less than the least. -/
def exponentFor (numerator denominator : Nat) : Int :=
  let guess := (numerator.log2 : Int) - denominator.log2 - 52
  let scaled := scaledFraction 2 (-guess) numerator denominator
  max leastExponent (if scaled.1 < leastNormal * scaled.2 then guess - 1 else guess)

/-- The number nearest to a positive fraction, unless that is too great. -/
def nearest? (numerator denominator : Nat) : Option Binary64 :=
  let exponent := exponentFor numerator denominator
  let scaled := scaledFraction 2 (-exponent) numerator denominator
  let significand := roundedQuotient scaled.1 scaled.2
  let rounded : Binary64 :=
    if significand = 2 * leastNormal then ⟨leastNormal, exponent + 1⟩ else ⟨significand, exponent⟩
  if rounded.exponent ≤ greatestExponent then some rounded else none

/-- Whether a decimal lies between the midpoints to the two neighbours of a number. A midpoint
itself belongs to the number with the even significand. -/
def isNearestTo (number : Binary64) (decimal : Decimal) : Bool :=
  -- Everything is multiplied by `4` and by the powers that make it whole.
  let scale := scaledFraction 2 number.exponent 1 1
  let other := scaledFraction 10 decimal.exponent decimal.digits 1
  let value := 4 * number.significand
  let below :=
    if number.significand = leastNormal ∧ leastExponent < number.exponent then value - 1
    else value - 2
  let above := value + 2
  let left := scale.1 * other.2
  let right := 4 * other.1 * scale.2
  if number.significand % 2 = 0 then below * left ≤ right && right ≤ above * left
  else below * left < right && right < above * left

/-- The decimal of so many digits below the number and the one above it. -/
def neighbours (number : Binary64) (exponent : Int) : Decimal × Decimal :=
  let value := scaledFraction 2 number.exponent number.significand 1
  let scaled := scaledFraction 10 (-exponent) value.1 value.2
  let floor := scaled.1 / scaled.2
  (⟨floor, exponent⟩, ⟨if scaled.1 % scaled.2 = 0 then floor else floor + 1, exponent⟩)

/-- Whether the lower of the two neighbours of this exponent is strictly nearer. -/
def isLowerNearer (number : Binary64) (exponent : Int) : Bool :=
  let value := scaledFraction 2 number.exponent number.significand 1
  let scaled := scaledFraction 10 (-exponent) value.1 value.2
  2 * (scaled.1 % scaled.2) < scaled.2

/-- The nearest decimal of this exponent that reads back, if one does. -/
def readsBack? (number : Binary64) (exponent : Int) : Option Decimal :=
  let (lower, upper) := number.neighbours exponent
  match number.isNearestTo lower, number.isNearestTo upper with
  | true, true => some (if number.isLowerNearer exponent then lower else upper)
  | true, false => some lower
  | false, true => some upper
  | false, false => none

/-- An exponent of ten that is above the number, or above it by one. -/
def decimalMagnitude (number : Binary64) : Int :=
  let value := scaledFraction 2 number.exponent number.significand 1
  if value.2 ≤ value.1 then ((Nat.toDigits 10 (value.1 / value.2)).length : Int)
  else 1 - ((Nat.toDigits 10 (value.2 / value.1)).length : Int)

/-- The shortest decimal that reads back, and the nearest one of those. -/
def shortest (number : Binary64) : Decimal :=
  let magnitude := number.decimalMagnitude
  ((List.range 19).findSome? (fun (count : Nat) => number.readsBack? (magnitude - count))).getD
    ⟨0, 0⟩

end Binary64

namespace Decimal

/-- Beyond this many digits before or after the point a decimal rounds to infinity or to zero. -/
def magnitudeLimit : Int :=
  400

/-- The nearest binary64 number, unless that is too great. -/
def nearest? (decimal : Decimal) : Option Binary64 :=
  let magnitude := decimal.exponent + (Nat.toDigits 10 decimal.digits).length
  if decimal.digits = 0 ∨ magnitude < -magnitudeLimit then some ⟨0, Binary64.leastExponent⟩
  else if magnitudeLimit < magnitude then none
  else
    let value := scaledFraction 10 decimal.exponent decimal.digits 1
    Binary64.nearest? value.1 value.2

/-- All digits in their places, with at least one digit on each side of the point. -/
def positional (decimal : Decimal) : String :=
  let digits := Nat.toDigits 10 decimal.digits
  let places := (-decimal.exponent).toNat
  let padded := List.replicate (places + 1 - digits.length) '0' ++ digits
  let whole := padded.take (padded.length - places) ++ List.replicate decimal.exponent.toNat '0'
  let fraction := padded.drop (padded.length - places)
  String.ofList (whole ++ ['.'] ++ (if fraction.isEmpty then ['0'] else fraction))

end Decimal

end LineEcho
