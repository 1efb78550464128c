import Stencil.Decimal.Binary64

/-!
The shortest decimal that reads back as a given number: the fewest digits, and of those the decimal
nearest to the number, a tie going to the even last digit.
-/

namespace Stencil.Decimal

/-- A positive decimal `coefficient * 10 ^ exponent`. -/
structure Digits where
  coefficient : Nat
  exponent : Int
  deriving DecidableEq, Repr

/-- The reals that round to one number, as bounds `low` and `high` around `middle`, all in units of
`unit = 2 ^ scale`; the bounds belong to it when `closed`. -/
structure Rounding where
  low : Nat
  middle : Nat
  high : Nat
  scale : Int
  closed : Bool

/-- The rounding interval of a finite positive number, in quarters of its last place. Below a power
of two the neighbour is only half as far away. -/
def Rounding.of (x : Binary64) : Rounding where
  low := 4 * x.significand - if x.fractionField = 0 ∧ 1 < x.exponentField then 1 else 2
  middle := 4 * x.significand
  high := 4 * x.significand + 2
  scale := x.scale - 2
  closed := x.significand % 2 = 0

/-- Factors by which an interval's bounds and multiples of `10 ^ exponent` compare as natural
numbers. -/
def Rounding.factors (interval : Rounding) (exponent : Int) : Nat × Nat :=
  (Nat.pow 2 interval.scale.toNat * Nat.pow 10 (-exponent).toNat,
    Nat.pow 2 (-interval.scale).toNat * Nat.pow 10 exponent.toNat)

/-- Whether `coefficient * 10 ^ exponent` lies in the interval. -/
def Rounding.holds (interval : Rounding) (d : Digits) : Bool :=
  let (binary, decimal) := interval.factors d.exponent
  let point := d.coefficient * decimal
  if interval.closed then
    interval.low * binary ≤ point && point ≤ interval.high * binary
  else interval.low * binary < point && point < interval.high * binary

/-- The decimal on the grid `10 ^ exponent` that lies in the interval and is nearest to its middle.
Only the two neighbours of the middle have to be tried. -/
def Rounding.onGrid? (interval : Rounding) (exponent : Int) : Option Digits :=
  let (binary, decimal) := interval.factors exponent
  let middle := interval.middle * binary
  let below : Digits := ⟨middle / decimal, exponent⟩
  let above : Digits := ⟨middle / decimal + 1, exponent⟩
  match 0 < below.coefficient && interval.holds below, interval.holds above with
  | true, true =>
    let twice := 2 * (middle % decimal)
    if twice < decimal ∨ (twice = decimal ∧ below.coefficient % 2 = 0) then some below
    else some above
  | true, false => some below
  | false, true => some above
  | false, false => none

/-- The power of ten of the leading digit of the interval's middle. -/
def Rounding.leading (interval : Rounding) : Int :=
  let bits : Int := interval.middle.log2 + interval.scale
  let guess := (bits * 30103).fdiv 100000
  let reaches (k : Int) : Bool :=
    let (binary, decimal) := interval.factors k
    decimal ≤ interval.middle * binary
  if reaches (guess + 1) then guess + 1 else if reaches guess then guess else guess - 1

/-- Without zeros at the end of the coefficient. The fuel is at least the number of digits. -/
def Digits.trim : Nat → Digits → Digits
  | 0, d => d
  | fuel + 1, d =>
    if d.coefficient ≠ 0 ∧ d.coefficient % 10 = 0 then
      Digits.trim fuel ⟨d.coefficient / 10, d.exponent + 1⟩
    else d

/-- The shortest decimal for the magnitude of a finite number that is not zero. Seventeen digits
always suffice. -/
def shortest (x : Binary64) : Digits :=
  let interval := Rounding.of x
  let leading := interval.leading
  let found := (List.range 17).findSome? fun (count : Nat) => interval.onGrid? (leading - count)
  (found.getD ⟨x.significand, 0⟩).trim 20

end Stencil.Decimal
