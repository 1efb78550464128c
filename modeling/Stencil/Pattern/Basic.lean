import Stencil.Text.Search

/-!
Patterns that select templates by their identifiers: a regular expression after `regex:`, a text
with one star, or the identifier itself. What an expression is and where it occurs is left to a
reader.
-/

namespace Stencil

inductive Pattern where
  /-- An expression, as the test whether it occurs in a text. -/
  | regex (occursIn : List Char → Bool)
  | glob (front back : List Char)
  | literal (text : List Char)

namespace Pattern

/-- A text with exactly one star is a glob; all other texts stand for themselves. -/
def ofText (text : List Char) : Pattern :=
  match Text.breakOn? ['*'] text with
  | some (front, _ :: back) => if back.contains '*' then .literal text else .glob front back
  | _ => .literal text

/-- Reads expressions: the test that a text writes, if it is an expression. -/
abbrev Reader := List Char → Option (List Char → Bool)

/-- What a written pattern means to a reader. After `regex:` an expression is expected; a text that
is none is taken as a whole, as if nothing were special about its beginning. -/
def ofStringBy (read : Reader) (pattern : String) : Pattern :=
  let text := pattern.toList
  match "regex:".toList.isPrefixOf? text with
  | some rest =>
    match read rest with
    | some occursIn => .regex occursIn
    | none => ofText text
  | none => ofText text

/-- Whether a pattern admits a name. The parts around a glob's star must not overlap, so the name
has to have room for both; its size is counted in bytes. -/
def admits (pattern : Pattern) (name : String) : Bool :=
  let chars := name.toList
  match pattern with
  | .regex occursIn => occursIn chars
  | .glob front back =>
    (String.ofList front).utf8ByteSize + (String.ofList back).utf8ByteSize ≤ name.utf8ByteSize &&
      front.isPrefixOf chars && back.isSuffixOf chars
  | .literal text => chars = text

/-- Whether a name is passed over: not among the included ones, where any are named, or among the
excluded ones. -/
def skips (included excluded : List Pattern) (name : String) : Bool :=
  (!included.isEmpty && !included.any fun pattern => pattern.admits name) ||
    excluded.any fun pattern => pattern.admits name

end Pattern

end Stencil
