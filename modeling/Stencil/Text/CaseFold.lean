import Stencil.Text.CaseMap

/-!
Case folding of single characters, for comparisons that ignore case.
-/

namespace Stencil.Text

/-- The characters whose folded form is not their lower-case form. -/
def foldExceptions : List (Nat × Nat) := [
  (0xB5, 0x3BC), (0x17F, 0x73), (0x345, 0x3B9), (0x3C2, 0x3C3), (0x3D0, 0x3B2), (0x3D1, 0x3B8),
  (0x3D5, 0x3C6), (0x3D6, 0x3C0), (0x3F0, 0x3BA), (0x3F1, 0x3C1), (0x3F5, 0x3B5),
  (0x1C80, 0x432), (0x1C81, 0x434), (0x1C82, 0x43E), (0x1C83, 0x441), (0x1C84, 0x442),
  (0x1C85, 0x442), (0x1C86, 0x44A), (0x1C87, 0x463), (0x1C88, 0xA64B), (0x1E9B, 0x1E61),
  (0x1FBE, 0x3B9), (0x1FD3, 0x390), (0x1FE3, 0x3B0), (0xFB06, 0xFB05)]

/-- The character that stands for all its case variants. -/
def fold (c : Char) : Char :=
  match foldExceptions.lookup c.toNat with
  | some point => Char.ofNat point
  | none => lowerChar c

/-- All characters with the same folded form. -/
def caseVariants (c : Char) : List Char :=
  let folded := fold c
  let candidates := folded :: folded.toUpper ::
    (lowerShifts.filterMap (·.preimage? folded.toNat) ++
      foldExceptions.filterMap fun (point, image) =>
        if image = folded.toNat then some (Char.ofNat point) else none)
  candidates.filter (fold · == folded)

end Stencil.Text
