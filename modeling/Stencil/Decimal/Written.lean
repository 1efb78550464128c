import Stencil.Decimal.Shortest

/-!
Written forms of decimals: positional digits with a point, or one digit before the point and a
power of ten.
-/

namespace Stencil.Decimal

/-- How decimals are written. A decimal is positional when the power of ten of its leading digit is
at least `positionalFrom` and below `positionalBelow`. -/
structure Style where
  positionalFrom : Int
  positionalBelow : Int
  exponentMark : Char
  plusSign : Bool

/-- A whole part and, when `digits` is not empty, a point and a fraction. -/
def withFraction (whole digits : List Char) : List Char :=
  if digits.isEmpty then whole else whole ++ '.' :: digits

/-- Digits at their places around the point; at least one digit stands on each side of it. -/
def Digits.positional (d : Digits) : List Char :=
  let digits := Nat.toDigits 10 d.coefficient
  if 0 ≤ d.exponent then digits ++ List.replicate d.exponent.toNat '0' ++ ['.', '0']
  else
    let places := (-d.exponent).toNat
    if places < digits.length then
      withFraction (digits.take (digits.length - places)) (digits.drop (digits.length - places))
    else '0' :: '.' :: (List.replicate (places - digits.length) '0' ++ digits)

/-- One digit, the others after a point, and the power of ten of the first. -/
def Digits.scientific (d : Digits) (style : Style) : List Char :=
  let digits := Nat.toDigits 10 d.coefficient
  let leading := d.exponent + (digits.length - 1 : Nat)
  let sign := if leading < 0 then ['-'] else if style.plusSign then ['+'] else []
  withFraction (digits.take 1) (digits.drop 1) ++
    style.exponentMark :: (sign ++ Nat.toDigits 10 leading.natAbs)

/-- A finite number in its shortest form. Zero keeps its sign. -/
def Binary64.write (x : Binary64) (style : Style) : List Char :=
  let sign := if x.isNegative then ['-'] else []
  if x.isZero then sign ++ ['0', '.', '0']
  else
    let d := shortest x
    let leading := d.exponent + ((Nat.toDigits 10 d.coefficient).length - 1 : Nat)
    let positional := style.positionalFrom ≤ leading ∧ leading < style.positionalBelow
    sign ++ if positional then d.positional else d.scientific style

end Stencil.Decimal
