import Stencil.Text.Alphanumeric
import Stencil.Text.LetterCase

/-!
The words of a compound name. Words are separated by anything that is neither letter nor digit, and
a change of case inside a run of letters and digits starts a new word: `userName` and `HTTPServer`
both have two.
-/

namespace Stencil.Words

/-- What the letters of the current word so far say: none yet, or the case of the last one. -/
inductive Mode where
  | boundary
  | lower
  | upper
  deriving DecidableEq, Repr

/-- The mode after a character. A character without case leaves it. -/
def Mode.next (mode : Mode) (c : Char) : Mode :=
  if Text.isLower c then .lower else if Text.isUpper c then .upper else mode

/-- Puts a character in front of the first word. -/
def extend (c : Char) : List (List Char) → List (List Char)
  | [] => [[c]]
  | word :: words => (c :: word) :: words

/-- Cuts a run of letters and digits into words. A word ends before a capital that follows a small
letter, and before the last capital of several that a small letter follows. In that second case the
result begins with an empty word, the end of the word that the capitals before belong to. -/
def cut (mode : Mode) : List Char → List (List Char)
  | [] => []
  | [c] => [[c]]
  | c :: next :: rest =>
    if mode.next c = .lower ∧ Text.isUpper next then
      [c] :: cut .boundary (next :: rest)
    else if mode = .upper ∧ Text.isUpper c ∧ Text.isLower next then
      [] :: extend c (cut .boundary (next :: rest))
    else extend c (cut (mode.next c) (next :: rest))

/-- The runs of letters and digits between all other characters, empty ones included. -/
def runs : List Char → List (List Char)
  | [] => [[]]
  | c :: rest => if Text.isAlphanumeric c then extend c (runs rest) else [] :: runs rest

end Stencil.Words

namespace Stencil

/-- The words of a compound name, in order. -/
def words (text : List Char) : List (List Char) :=
  (Words.runs text).flatMap (Words.cut .boundary)

end Stencil
