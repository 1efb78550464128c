import Stencil.Registry.Basic

/-!
A body read as literal characters and placeholders, from left to right, the longest placeholder
first. The reading depends on the marker and the keys alone; the values come in afterwards, when
the pieces are filled.
-/

namespace Stencil

/-- A literal character, or the place of a key's value. -/
inductive Piece where
  | literal (c : Char)
  | slot (key : String)
  deriving DecidableEq, Repr

namespace Piece

/-- The placeholder of a key. -/
def written (marker : List Char) (key : String) : List Char :=
  marker ++ key.toList ++ marker

/-- The key with the longest placeholder that begins a text; of equally long ones the first. -/
def longestKey? (marker : List Char) (keys : List String) (text : List Char) : Option String :=
  keys.foldl (fun best key =>
    if !(written marker key).isPrefixOf text then best
    else
      match best with
      | none => some key
      | some other => if other.toList.length < key.toList.length then some key else some other) none

/-- The pieces of a text. -/
def scan (marker : List Char) (keys : List String) : List Char → List Piece
  | [] => []
  | c :: rest =>
    match longestKey? marker keys (c :: rest) with
    | some key =>
      .slot key :: scan marker keys (rest.drop ((written marker key).length - 1))
    | none => .literal c :: scan marker keys rest
termination_by text => text.length
decreasing_by
  all_goals
    simp only [List.length_cons, List.length_drop]
    omega

/-- The text of a piece, given the texts of the keys. -/
def fill (value : String → List Char) : Piece → List Char
  | .literal c => [c]
  | .slot key => value key

end Piece

end Stencil
