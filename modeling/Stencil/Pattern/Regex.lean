import Stencil.Pattern.CharClass

/-!
Regular expressions and the positions in a text that they match up to. Only whether there is a
match matters here, so a repetition has no preference for more or for less.
-/

namespace Stencil.Pattern

/-- A condition on a position that takes no character. -/
inductive Anchor where
  | textStart
  | textEnd
  /-- After a line feed; with `returns` also around a carriage return, but not inside a pair. -/
  | lineStart (returns : Bool)
  | lineEnd (returns : Bool)
  | wordEdge
  | noWordEdge
  | wordStart
  | wordEnd
  deriving DecidableEq, Repr

inductive Regex where
  | empty
  | one (chars : CharClass)
  | anchor (condition : Anchor)
  | sequence (first second : Regex)
  | choice (first second : Regex)
  /-- At least `least` times, and at most `most` times where there is a bound. -/
  | repeated (inner : Regex) (least : Nat) (most : Option Nat)
  deriving Repr

/-- A position in a text: the character before it and the characters after it. -/
structure Position where
  before : Option Char
  rest : List Char
  deriving DecidableEq, Repr

namespace Position

def start (text : List Char) : Position :=
  ⟨none, text⟩

def afterWord (p : Position) : Bool :=
  p.before.any Text.isWordChar

def beforeWord (p : Position) : Bool :=
  p.rest.head?.any Text.isWordChar

def satisfies (p : Position) : Anchor → Bool
  | .textStart => p.before.isNone
  | .textEnd => p.rest.isEmpty
  | .lineStart returns =>
    p.before.isNone || p.before = some '\n' ||
      (returns && p.before = some '\r' && p.rest.head? ≠ some '\n')
  | .lineEnd returns =>
    p.rest.isEmpty || (p.rest.head? = some '\n' && !(returns && p.before = some '\r')) ||
      (returns && p.rest.head? = some '\r')
  | .wordEdge => p.afterWord != p.beforeWord
  | .noWordEdge => p.afterWord == p.beforeWord
  | .wordStart => !p.afterWord && p.beforeWord
  | .wordEnd => p.afterWord && !p.beforeWord

/-- Positions without repetition. Within one text a position is known by how much is left. -/
def distinct (positions : List Position) : List Position :=
  positions.foldr (fun p kept =>
    if kept.any fun other => other.rest.length = p.rest.length then kept else p :: kept) []

/-- What `step` reaches from the positions in at most the given number of rounds, these positions
included. -/
def closure (step : Position → List Position) : Nat → List Position → List Position
  | 0, positions => positions
  | rounds + 1, positions =>
    let reached := distinct (positions ++ positions.flatMap step)
    if reached.length = positions.length then positions else closure step rounds reached

/-- What `step` reaches in exactly the given number of rounds. -/
def iterate (step : Position → List Position) : Nat → List Position → List Position
  | 0, positions => positions
  | rounds + 1, positions =>
    if positions.isEmpty then [] else iterate step rounds (distinct (positions.flatMap step))

end Position

namespace Regex

/-- The positions up to which the expression matches from a position on. An unbounded repetition
needs no more rounds than there are positions left. -/
def ends : Regex → Position → List Position
  | .empty, p => [p]
  | .one chars, p =>
    match p.rest with
    | [] => []
    | c :: rest => if chars.contains c then [⟨some c, rest⟩] else []
  | .anchor condition, p => if p.satisfies condition then [p] else []
  | .sequence first second, p => Position.distinct ((first.ends p).flatMap second.ends)
  | .choice first second, p => Position.distinct (first.ends p ++ second.ends p)
  | .repeated inner least most, p =>
    let required := Position.iterate inner.ends least [p]
    let rounds := p.rest.length + 1
    match most with
    | none => Position.closure inner.ends rounds required
    | some most => Position.closure inner.ends (min (most - least) rounds) required

/-- Whether the expression matches somewhere in the rest of a text. -/
def occursFrom (regex : Regex) (before : Option Char) : List Char → Bool
  | [] => !(regex.ends ⟨before, []⟩).isEmpty
  | c :: rest => !(regex.ends ⟨before, c :: rest⟩).isEmpty || regex.occursFrom (some c) rest

/-- Whether the expression matches somewhere in a text. -/
def occursIn (regex : Regex) (text : List Char) : Bool :=
  regex.occursFrom none text

/-- The number of tests when all counted repetitions are written out. -/
def expandedSize : Regex → Nat
  | .empty => 1
  | .one _ => 1
  | .anchor _ => 1
  | .sequence first second => first.expandedSize + second.expandedSize
  | .choice first second => first.expandedSize + second.expandedSize + 1
  | .repeated inner least most => inner.expandedSize * max 1 (most.getD least) + 1

end Regex

end Stencil.Pattern
