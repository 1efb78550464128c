import Stencil.Value.Basic
import Stencil.Decimal.Written
import Stencil.Text.Quoted

/-!
The compact JSON text of a value: no blanks, keys in order, and only those characters escaped that
have to be.
-/

namespace Stencil

/-- Numbers are positional from `0.00001` to below `10 ^ 16`, and a scientific one always shows the
sign of its exponent. -/
def Number.style : Decimal.Style where
  positionalFrom := -5
  positionalBelow := 16
  exponentMark := 'e'
  plusSign := true

/-- The digits of a number. -/
def Number.text : Number → List Char
  | .whole n => if n < 0 then '-' :: Nat.toDigits 10 n.natAbs else Nat.toDigits 10 n.natAbs
  | .float x => x.write Number.style

namespace Value

/-- How one character appears in a JSON string. -/
def escapedChar (c : Char) : List Char :=
  if c = '\x22' then ['\\', '\x22']
  else if c = '\\' then ['\\', '\\']
  else if c = '\x08' then ['\\', 'b']
  else if c = '\x0C' then ['\\', 'f']
  else if c = '\n' then ['\\', 'n']
  else if c = '\r' then ['\\', 'r']
  else if c = '\t' then ['\\', 't']
  else if c.toNat < 0x20 then
    ['\\', 'u', '0', '0', Nat.digitChar (c.toNat / 16), Nat.digitChar (c.toNat % 16)]
  else [c]

/-- A JSON string. -/
def escaped (text : String) : List Char :=
  '\x22' :: text.toList.flatMap escapedChar ++ ['\x22']

mutual

/-- The characters of the compact JSON text. -/
def compactChars : Value → List Char
  | .null => ['n', 'u', 'l', 'l']
  | .bool true => ['t', 'r', 'u', 'e']
  | .bool false => ['f', 'a', 'l', 's', 'e']
  | .number n => n.text
  | .string text => escaped text
  | .array items => '[' :: compactItems items ++ [']']
  | .object fields => '\x7b' :: compactFields fields ++ ['\x7d']

/-- Items with commas between them. -/
def compactItems : List Value → List Char
  | [] => []
  | [item] => compactChars item
  | item :: rest => compactChars item ++ ',' :: compactItems rest

/-- Fields with commas between them. -/
def compactFields : List (String × Value) → List Char
  | [] => []
  | [(key, value)] => escaped key ++ ':' :: compactChars value
  | (key, value) :: rest => escaped key ++ ':' :: compactChars value ++ ',' :: compactFields rest

end

/-- The compact JSON text. -/
def compact (value : Value) : String :=
  String.ofList value.compactChars

/-- A value as text: a string as it is, anything else as JSON. -/
def text : Value → String
  | .string text => text
  | other => other.compact

end Value

end Stencil
