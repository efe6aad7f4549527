/-!
# Finite doubles

The nonnegative finite numbers of the 64-bit binary format, as a mantissa and a power of two,
with rounding to nearest in exact arithmetic. An operation whose result would be infinite has
no value here. The sign of a number is kept beside it, so negative zero is a sign and a zero.
-/
namespace SarifDigest

/-- The number `mantissa * 2 ^ exponent`, with a mantissa below `2 ^ 53` and an exponent from
-1074 to 971. Below `2 ^ 52` the mantissa is subnormal and the exponent is -1074. -/
structure Binary64 where
  mantissa : Nat
  exponent : Int
deriving DecidableEq

namespace Binary64

/-- The number zero. -/
def zero : Binary64 := ⟨0, -1074⟩

/-- A power of two. -/
def twoTo (exponent : Nat) : Nat := Nat.pow 2 exponent

/-- A power of ten. -/
def tenTo (exponent : Nat) : Nat := Nat.pow 10 exponent

/-- The quotient rounded to the nearest integer, a half going to the even neighbour. -/
def roundDiv (numerator denominator : Nat) : Nat :=
  let below := numerator / denominator
  let excess := 2 * (numerator % denominator)
  if excess < denominator then below
  else if excess > denominator then below + 1
  else if below % 2 = 0 then below
  else below + 1

/-- A fraction divided by a power of two, as a fraction. -/
def unscale (numerator denominator : Nat) (exponent : Int) : Nat × Nat :=
  (numerator * twoTo (-exponent).toNat, denominator * twoTo exponent.toNat)

/-- The number nearest to a fraction, none when it lies past the largest one. The exponent is
the one that puts the mantissa between `2 ^ 52` and `2 ^ 53`, or the least exponent. -/
def ofRatio (numerator denominator : Nat) : Option Binary64 :=
  if numerator = 0 then some zero else
  let guess : Int := (numerator.log2 : Int) - (denominator.log2 : Int) - 52
  let fraction := unscale numerator denominator guess
  let fitting := if fraction.1 / fraction.2 < twoTo 52 then guess - 1 else guess
  let exponent := max fitting (-1074)
  let scaled := unscale numerator denominator exponent
  let mantissa := roundDiv scaled.1 scaled.2
  let carried : Binary64 :=
    if mantissa = twoTo 53 then ⟨twoTo 52, exponent + 1⟩ else ⟨mantissa, exponent⟩
  if carried.exponent > 971 then none else some carried

/-- The number nearest to a mantissa at a power of two. -/
def ofScaled (mantissa : Nat) (exponent : Int) : Option Binary64 :=
  ofRatio (mantissa * twoTo exponent.toNat) (twoTo (-exponent).toNat)

/-- The rounded product. -/
def mul (left right : Binary64) : Option Binary64 :=
  ofScaled (left.mantissa * right.mantissa) (left.exponent + right.exponent)

/-- The rounded quotient by a number other than zero. -/
def div (left right : Binary64) : Option Binary64 :=
  let exponent := left.exponent - right.exponent
  ofRatio (left.mantissa * twoTo exponent.toNat) (right.mantissa * twoTo (-exponent).toNat)

/-- The power of ten nearest to the true one, for exponents up to 308. -/
def powerOfTen (exponent : Nat) : Option Binary64 :=
  ofRatio (tenTo exponent) 1

/-- A number divided by ten to the power `308 * steps`, one rounded division a step; zero
needs no more steps. -/
def shrink : Nat → Binary64 → Option Binary64
  | 0, value => some value
  | steps + 1, value =>
    if value.mantissa = 0 then some zero
    else do
      let unit ← powerOfTen 308
      let smaller ← value.div unit
      shrink steps smaller

/-- The number that a decimal significand and exponent stand for, computed as a rounded
significand times or over a rounded power of ten. Each step rounds, so the result can differ
from the nearest number in its last digit. None when it is past the largest number, which the
nearest number may not be. -/
def ofDecimal (significand : Nat) (exponent : Int) : Option Binary64 := do
  let start ← ofRatio significand 1
  if exponent > 308 then
    if significand = 0 then some zero else none
  else if exponent ≥ 0 then
    start.mul (← powerOfTen exponent.toNat)
  else
    let steps := ((-exponent).toNat - 1) / 308
    let value ← shrink steps start
    if value.mantissa = 0 then some zero
    else value.div (← powerOfTen ((-exponent).toNat - 308 * steps))

/-- The number nearest to a decimal, none when it is past the largest number. The power of ten is
not computed where the decimal is surely too large, or so small that zero is nearest. -/
def nearestDecimal (significand : Nat) (exponent : Int) : Option Binary64 :=
  if significand = 0 then some zero
  else if exponent > 308 then none
  else if (significand.log2 : Int) + 1075 < -exponent then some zero
  else ofRatio (significand * tenTo exponent.toNat) (tenTo (-exponent).toNat)

end Binary64

end SarifDigest
