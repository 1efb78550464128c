/-!
Numbers written in a base: digits up to nine, then letters of either case.
-/

namespace Stencil.Text

/-- The value of a digit in the largest base. -/
def digitValue? (c : Char) : Option Nat :=
  if '0' ≤ c ∧ c ≤ '9' then some (c.toNat - 48)
  else if 'a' ≤ c ∧ c ≤ 'z' then some (c.toNat - 87)
  else if 'A' ≤ c ∧ c ≤ 'Z' then some (c.toNat - 55)
  else none

/-- The number that digits of a base write after a number that others wrote before them. -/
def numeralFrom? (base : Nat) (before : Nat) : List Char → Option Nat
  | [] => some before
  | c :: rest =>
    match digitValue? c with
    | some digit =>
      if digit < base then numeralFrom? base (before * base + digit) rest else none
    | none => none

/-- The number that digits of a base write, of which there has to be one. -/
def numeral? (base : Nat) (digits : List Char) : Option Nat :=
  if digits.isEmpty then none else numeralFrom? base 0 digits

/-- The character with a code point written in hexadecimal digits. -/
def charOfHex? (digits : List Char) : Option Char := do
  let point ← numeral? 16 digits
  if h : point.isValidChar then some (Char.ofNatAux point h) else none

end Stencil.Text
