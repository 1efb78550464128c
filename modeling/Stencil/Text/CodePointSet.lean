/-!
Sets of code points, kept as the increasing list of the points where membership changes. A lookup
counts the boundaries up to a point by halving, and an odd count means the point is inside a run.
-/

namespace Stencil.Text

/-- A set of code points. The first boundary starts a run of members, the second is the first
point after that run, and so on. -/
structure CodePointSet where
  boundaries : Array Nat

/-- How many of the boundaries with index below `high` are at most `point`, given that those below
`low` are and that the boundaries increase. -/
def CodePointSet.rank (set : CodePointSet) (point low high : Nat) : Nat :=
  if low < high then
    let middle := (low + high) / 2
    if set.boundaries.getD middle 0 ≤ point then set.rank point (middle + 1) high
    else set.rank point low middle
  else low
termination_by high - low

/-- A point is a member when an odd number of boundaries lie at or before it. -/
def CodePointSet.contains (set : CodePointSet) (c : Char) : Bool :=
  set.rank c.toNat 0 set.boundaries.size % 2 == 1

end Stencil.Text
