import Stencil.Text.Printable

/-!
Texts in double quotes, as error messages and outlines show them: a quote and a backslash take a
backslash, and what cannot be shown is written by its code point.
-/

namespace Stencil.Text

/-- How one character appears inside quotes. A code point is written in lower-case hexadecimal
digits without leading zeros. -/
def quotedChar (c : Char) : List Char :=
  if c = '\x22' then ['\\', '\x22']
  else if c = '\\' then ['\\', '\\']
  else if c = '\x00' then ['\\', '0']
  else if c = '\t' then ['\\', 't']
  else if c = '\n' then ['\\', 'n']
  else if c = '\r' then ['\\', 'r']
  else if isShowable c then [c]
  else ['\\', 'u', '\x7b'] ++ Nat.toDigits 16 c.toNat ++ ['\x7d']

/-- The text in double quotes. -/
def quoted (text : String) : String :=
  String.ofList ('\x22' :: text.toList.flatMap quotedChar ++ ['\x22'])

/-- The text in double quotes, with a backslash before a single quote too. -/
def quotedStrictly (text : String) : String :=
  let inner := text.toList.flatMap fun c => if c = '\x27' then ['\\', '\x27'] else quotedChar c
  String.ofList ('\x22' :: inner ++ ['\x22'])

end Stencil.Text
