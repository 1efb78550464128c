import Stencil.Text.Blank
import Stencil.Text.CaseFold
import Stencil.Text.WordChar

/-!
Classes of characters that an expression tests one character against.
-/

namespace Stencil.Pattern

inductive CharClass where
  | range (first last : Char)
  | digit
  | space
  | word
  | union (left right : CharClass)
  | both (left right : CharClass)
  | negate (inner : CharClass)
  /-- Characters of which some case variant is in the class. -/
  | anyCase (inner : CharClass)
  deriving Repr

namespace CharClass

def contains (c : Char) : CharClass → Bool
  | .range first last => first.toNat ≤ c.toNat && c.toNat ≤ last.toNat
  | .digit => Text.isDecimalDigit c
  | .space => Text.isBlank c
  | .word => Text.isWordChar c
  | .union left right => left.contains c || right.contains c
  | .both left right => left.contains c && right.contains c
  | .negate inner => !inner.contains c
  | .anyCase inner => (Text.caseVariants c).any fun variant => inner.contains variant

def single (c : Char) : CharClass :=
  .range c c

/-- No character: none is on both sides of the order. -/
def none : CharClass :=
  .range '\x01' '\x00'

def ofList (classes : List CharClass) : CharClass :=
  classes.foldr .union none

/-- The left class without the right one. -/
def minus (left right : CharClass) : CharClass :=
  .both left (.negate right)

/-- In one of two classes but not in both. -/
def either (left right : CharClass) : CharClass :=
  .union (left.minus right) (right.minus left)

/-- The ASCII classes that go by a name in square brackets and colons. -/
def named? (name : String) : Option CharClass :=
  let lower := CharClass.range 'a' 'z'
  let upper := CharClass.range 'A' 'Z'
  let digits := CharClass.range '0' '9'
  let letters := CharClass.union lower upper
  match name with
  | "alnum" => some (.union letters digits)
  | "alpha" => some letters
  | "ascii" => some (.range '\x00' '\x7F')
  | "blank" => some (.union (single '\t') (single ' '))
  | "cntrl" => some (.union (.range '\x00' '\x1F') (single '\x7F'))
  | "digit" => some digits
  | "graph" => some (.range '!' '~')
  | "lower" => some lower
  | "print" => some (.range ' ' '~')
  | "punct" => some (minus (.range '!' '~') (.union letters digits))
  | "space" => some (.union (.range '\t' '\r') (single ' '))
  | "upper" => some upper
  | "word" => some (.union (.union letters digits) (single '_'))
  | "xdigit" => some (.union digits (.union (.range 'a' 'f') (.range 'A' 'F')))
  | _ => Option.none

end CharClass

end Stencil.Pattern
