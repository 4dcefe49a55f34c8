/-!
The shortest decimal that reads back as a given binary number.

A finite double is `m * 2 ^ q` in exact arithmetic, and every real between the midpoints to its two
neighbours reads back as it. For one digit, two digits and so on up to seventeen, the two neighbours
of the number on that decimal grid are tried; the first grid with a hit wins, and of two hits the
nearer one.
-/

namespace Marquee.Decimal

-- Powers are those of the core library, whatever else is in scope.
attribute [local instance (high)] instPowNat instNatPowNat

structure Scientific where
  significand : Nat
  exponent : Int
deriving DecidableEq, Repr

structure Binary where
  mantissa : Nat
  exponent : Int
  /-- Whether the next smaller double is only half as far away as the next larger one. -/
  narrowBelow : Bool
deriving DecidableEq, Repr

namespace Binary

def ofBits (bits : UInt64) : Binary :=
  let field := (bits >>> 52).toNat % 2048
  let fraction := bits.toNat % 0x10000000000000
  if field = 0 then
    ⟨fraction, -1074, false⟩
  else
    ⟨fraction + 0x10000000000000, (field : Int) - 1075, fraction == 0 && field != 1⟩

def fraction (scale : Nat) (exponent : Int) : Nat × Nat :=
  if 0 ≤ exponent then (scale * 2 ^ exponent.toNat, 1) else (scale, 2 ^ (-exponent).toNat)

def floor (value : Binary) : Nat :=
  let exact := fraction value.mantissa value.exponent
  exact.1 / exact.2

def fractionLt (left right : Nat × Nat) : Bool := left.1 * right.2 < right.1 * left.2

def lowerEnd (value : Binary) : Nat × Nat :=
  fraction (4 * value.mantissa - if value.narrowBelow then 1 else 2) (value.exponent - 2)

def upperEnd (value : Binary) : Nat × Nat :=
  fraction (4 * value.mantissa + 2) (value.exponent - 2)

/-- Whether a fraction reads back as the value: the midpoints themselves do if the mantissa is even.
-/
def admits (value : Binary) (point : Nat × Nat) : Bool :=
  if value.mantissa % 2 = 0 then
    !fractionLt point value.lowerEnd && !fractionLt value.upperEnd point
  else
    fractionLt value.lowerEnd point && fractionLt point value.upperEnd

end Binary

def digitCount (number : Nat) : Nat := (Nat.toDigits 10 number).length

def leadingExponent (numerator denominator : Nat) : Int :=
  if denominator ≤ numerator then
    (digitCount (numerator / denominator) : Int) - 1
  else
    -(digitCount ((denominator + numerator - 1) / numerator - 1) : Int)

def Scientific.fraction (number : Scientific) : Nat × Nat :=
  if 0 ≤ number.exponent then
    (number.significand * 10 ^ number.exponent.toNat, 1)
  else
    (number.significand, 10 ^ (-number.exponent).toNat)

def onGrid (value : Binary) (digits : Nat) : Option Scientific :=
  let exact := Binary.fraction value.mantissa value.exponent
  let exponent := leadingExponent exact.1 exact.2 - digits + 1
  let unit := Scientific.fraction ⟨1, exponent⟩
  let numerator := exact.1 * unit.2
  let denominator := exact.2 * unit.1
  let below : Scientific := ⟨numerator / denominator, exponent⟩
  let above : Scientific := ⟨numerator / denominator + 1, exponent⟩
  let rest := 2 * (numerator % denominator)
  let preferBelow := rest < denominator || (rest == denominator && below.significand % 2 == 0)
  let (first, second) := if preferBelow then (below, above) else (above, below)
  if value.admits first.fraction then some first
  else if value.admits second.fraction then some second
  else none

def firstHit (value : Binary) (digits : Nat) : Nat → Scientific
  | 0 => ⟨value.mantissa, value.exponent⟩
  | grids + 1 =>
    match onGrid value digits with
    | some hit => hit
    | none => firstHit value (digits + 1) grids

def Scientific.trim (number : Scientific) : Nat → Scientific
  | 0 => number
  | steps + 1 =>
    if number.significand % 10 = 0 then
      Scientific.trim ⟨number.significand / 10, number.exponent + 1⟩ steps
    else
      number

def shortest (bits : UInt64) : Scientific :=
  let value := Binary.ofBits bits
  if value.mantissa = 0 then ⟨0, 0⟩ else (firstHit value 1 17).trim 20

structure Layout where
  isPositional : Int → Bool

def Layout.plain : Layout := ⟨fun _ => true⟩

/-- Positional from 0.00001 up to sixteen digits before the point, and with an exponent beyond. -/
def Layout.compact : Layout := ⟨fun leading => -5 ≤ leading && leading ≤ 15⟩

private def zeros (count : Nat) : String := String.ofList (List.replicate count '0')

def positional (number : Scientific) : String :=
  let digits := Nat.toDigits 10 number.significand
  if 0 ≤ number.exponent then
    String.ofList digits ++ zeros number.exponent.toNat ++ ".0"
  else
    let places := (-number.exponent).toNat
    if places < digits.length then
      String.ofList (digits.take (digits.length - places)) ++ "." ++
        String.ofList (digits.drop (digits.length - places))
    else
      "0." ++ zeros (places - digits.length) ++ String.ofList digits

def exponential (number : Scientific) : String :=
  let digits := Nat.toDigits 10 number.significand
  let leading := number.exponent + digits.length - 1
  let fraction := digits.drop 1
  String.ofList (digits.take 1) ++
    (if fraction.isEmpty then "" else "." ++ String.ofList fraction) ++ "e" ++
    (if leading < 0 then "-" else "+") ++ toString leading.natAbs

def text (layout : Layout) (bits : UInt64) : String :=
  let sign := if bits >>> 63 = 1 then "-" else ""
  if (bits >>> 52).toNat % 2048 = 2047 then
    if bits.toNat % 0x10000000000000 = 0 then sign ++ "inf" else "NaN"
  else
    let number := shortest bits
    let leading := number.exponent + digitCount number.significand - 1
    sign ++ if layout.isPositional leading then positional number else exponential number

end Marquee.Decimal
