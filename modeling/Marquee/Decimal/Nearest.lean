/-!
The double nearest to a decimal number. The decimal is a fraction of two natural numbers; it is
divided exactly with as many binary digits as a double has, and what is left over decides which
way to round. A number halfway between two doubles goes to the one with an even mantissa.
-/

namespace Marquee.Decimal

-- Powers are those of the core library, whatever else is in scope.
attribute [local instance (high)] instPowNat instNatPowNat

def infinityBits : UInt64 := 0x7ff0000000000000

/-- The quotient of `numerator / denominator` rounded to the nearest whole number, halves to even.
-/
def roundedQuotient (numerator denominator : Nat) : Nat :=
  let quotient := numerator / denominator
  let rest := 2 * (numerator % denominator)
  if denominator < rest ∨ (rest = denominator ∧ quotient % 2 = 1) then quotient + 1 else quotient

/-- The power of two of the last binary digit of the double next to a positive fraction. -/
def lastPlace (numerator denominator : Nat) : Int :=
  let guess : Int := (numerator.log2 : Int) - denominator.log2 - 52
  let tooLarge :=
    if 0 ≤ guess then numerator < denominator * 2 ^ (guess.toNat + 52)
    else numerator * 2 ^ (-guess).toNat < denominator * 0x10000000000000
  max (-1074) (if tooLarge then guess - 1 else guess)

def nearestToFraction (numerator denominator : Nat) : UInt64 :=
  if numerator = 0 then
    0
  else
    let place := lastPlace numerator denominator
    let mantissa :=
      if 0 ≤ place then roundedQuotient numerator (denominator * 2 ^ place.toNat)
      else roundedQuotient (numerator * 2 ^ (-place).toNat) denominator
    -- a mantissa that was rounded up to the next power of two carries into the exponent by itself
    let bits :=
      if mantissa < 0x10000000000000 then mantissa
      else (place + 1074).toNat * 0x10000000000000 + mantissa
    if infinityBits.toNat ≤ bits then infinityBits else bits.toUInt64

def nearest (significand : Nat) (exponent : Int) : UInt64 :=
  let leading := (Nat.toDigits 10 significand).length + exponent
  if significand = 0 ∨ leading < -330 then 0
  else if 320 < leading then infinityBits
  else if 0 ≤ exponent then nearestToFraction (significand * 10 ^ exponent.toNat) 1
  else nearestToFraction significand (10 ^ (-exponent).toNat)

end Marquee.Decimal
