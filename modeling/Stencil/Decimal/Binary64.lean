/-!
Binary floating-point numbers of 64 bits, kept as their bit patterns, so that equality is decidable
and all arithmetic on them is on natural numbers. Reading a decimal rounds to the nearest number,
a tie to the one with an even significand.
-/

namespace Stencil.Decimal

/-- A floating-point number by its bits: a sign, eleven bits of exponent, fifty-two of fraction. -/
structure Binary64 where
  bits : UInt64
  deriving DecidableEq, Repr, Inhabited

namespace Binary64

def isNegative (x : Binary64) : Bool :=
  Nat.pow 2 63 ≤ x.bits.toNat

def exponentField (x : Binary64) : Nat :=
  x.bits.toNat / Nat.pow 2 52 % Nat.pow 2 11

def fractionField (x : Binary64) : Nat :=
  x.bits.toNat % Nat.pow 2 52

/-- Neither an infinity nor a NaN. -/
def isFinite (x : Binary64) : Bool :=
  x.exponentField ≠ 2047

def isNaN (x : Binary64) : Bool :=
  x.exponentField = 2047 && x.fractionField ≠ 0

/-- Zero of either sign. -/
def isZero (x : Binary64) : Bool :=
  x.exponentField = 0 && x.fractionField = 0

/-- The magnitude of a finite number is `significand * 2 ^ scale`. -/
def significand (x : Binary64) : Nat :=
  if x.exponentField = 0 then x.fractionField else Nat.pow 2 52 + x.fractionField

@[inherit_doc significand]
def scale (x : Binary64) : Int :=
  max (x.exponentField : Int) 1 - 1075

/-- The quotient rounded to the nearest natural number, a half to the even one. -/
def roundDiv (numerator denominator : Nat) : Nat :=
  let floor := numerator / denominator
  let twice := 2 * (numerator % denominator)
  if twice < denominator then floor
  else if denominator < twice then floor + 1
  else floor + floor % 2

/-- `numerator / denominator` as two natural numbers after division by a power of two. -/
def unscale (numerator denominator : Nat) (power : Int) : Nat × Nat :=
  (numerator * Nat.pow 2 (-power).toNat, denominator * Nat.pow 2 power.toNat)

/-- The number nearest to a positive quotient. The scale is chosen so that the significand has
fifty-three bits, or is the least scale; a significand that rounds up to the next power of two
carries into the exponent field by itself. Beyond the largest number lies infinity. -/
def ofRatio (negative : Bool) (numerator denominator : Nat) : Binary64 :=
  if numerator = 0 then ⟨if negative then 0x8000000000000000 else 0⟩
  else
    let guess : Int := Int.ofNat numerator.log2 - Int.ofNat denominator.log2 - 52
    let (n, d) := unscale numerator denominator guess
    let scale := max (if n < d * Nat.pow 2 52 then guess - 1 else guess) (-1074)
    let (n, d) := unscale numerator denominator scale
    let magnitude := (scale + 1074).toNat * Nat.pow 2 52 + roundDiv n d
    let bounded := min magnitude (2047 * Nat.pow 2 52)
    ⟨UInt64.ofNat (bounded + if negative then Nat.pow 2 63 else 0)⟩

/-- The number nearest to `coefficient * 10 ^ exponent`. Exponents far outside the range are not
expanded. -/
def ofDecimal (negative : Bool) (coefficient : Nat) (exponent : Int) : Binary64 :=
  let digits : Int := (Nat.toDigits 10 coefficient).length
  if coefficient = 0 ∨ digits + exponent < -330 then ofRatio negative 0 1
  else if 310 < digits + exponent then ofRatio negative (Nat.pow 2 1024) 1
  else
    ofRatio negative (coefficient * Nat.pow 10 exponent.toNat) (Nat.pow 10 (-exponent).toNat)

end Binary64

end Stencil.Decimal
