import Mathlib.Data.List.Flatten
import Mathlib.Data.List.Perm.Basic
import Stencil.Proofs.Dedent.Indentation

/-!
What dedenting loses. The visible characters of a body stay in their order, and the only ones that
go are those in the margin, the front of each line that is as long as the first line is indented. So
nothing is lost where the margin of every line is blank.
-/

namespace Stencil.Text

/-- The characters of a text without its blanks. -/
def visible (text : List Char) : List Char :=
  text.filter (!isBlank ·)

variable {text : List Char}

theorem visible_append (front back : List Char) :
    visible (front ++ back) = visible front ++ visible back :=
  List.filter_append front back

theorem visible_eq_nil_iff : visible text = [] ↔ ∀ c ∈ text, isBlank c = true := by
  simp [visible, List.filter_eq_nil_iff]

theorem visible_trimEnd (text : List Char) : visible (trimEnd text) = visible text := by
  have hblanks : visible (text.rtakeWhile isBlank) = [] := by
    rw [visible_eq_nil_iff]
    intro c hc
    exact List.mem_rtakeWhile_imp hc
  calc
    visible (trimEnd text) = visible (text.rdropWhile isBlank ++ text.rtakeWhile isBlank) := by
      rw [visible_append, hblanks, List.append_nil]
      rfl
    _ = visible text := by rw [List.rdropWhile_append_rtakeWhile]

theorem visible_joinLines (lines : List (List Char)) :
    visible (joinLines lines) = lines.flatMap visible := by
  induction lines with
  | nil => rfl
  | cons line rest ih =>
      cases rest with
      | nil => simp [joinLines]
      | cons next more =>
          rw [joinLines_cons (List.cons_ne_nil next more), visible_append, List.flatMap_cons, ← ih]
          rfl

theorem visible_eq_flatMap (text : List Char) :
    visible text = (splitLines text).flatMap visible := by
  rw [← visible_joinLines, joinLines_splitLines]

end Stencil.Text

namespace Stencil.Dedent

theorem visible_unindent (n : Nat) (text : List Char) :
    Text.visible (unindent n text) =
      (Text.splitLines text).flatMap fun line => Text.visible (line.drop n) := by
  rw [unindent, Text.visible_joinLines, List.flatMap_map]

theorem visible_format (raw : List Char) :
    Text.visible (format raw) =
      Text.visible (unindent (depth (Text.behindFirstLine raw)) (Text.behindFirstLine raw)) := by
  have hnewline : Text.visible ['\n'] = [] := rfl
  rw [format_eq, Text.visible_append, Text.visible_trimEnd, hnewline, List.append_nil]

/-- Every line is its margin and what stays of it. -/
theorem visible_take_drop (n : Nat) (text : List Char) :
    Text.visible text = (Text.splitLines text).flatMap fun line =>
      Text.visible (line.take n) ++ Text.visible (line.drop n) := by
  rw [Text.visible_eq_flatMap]
  apply List.flatMap_congr
  intro line _
  rw [← Text.visible_append, List.take_append_drop]

/-- To take the margins away costs as many visible characters as they hold, so it costs none only if
all of them are blank. -/
theorem visible_unindent_eq_iff (n : Nat) (text : List Char) :
    Text.visible (unindent n text) = Text.visible text ↔
      ∀ line ∈ Text.splitLines text, ∀ c ∈ line.take n, Text.isBlank c = true := by
  rw [visible_unindent]
  constructor
  · intro hkept
    have hperm := List.flatMap_append_perm (Text.splitLines text)
      (fun line => Text.visible (line.take n)) (fun line => Text.visible (line.drop n))
    have hlength := hperm.length_eq
    rw [← visible_take_drop, List.length_append, hkept] at hlength
    have hlost : (Text.splitLines text).flatMap (fun line => Text.visible (line.take n)) = [] := by
      rw [← List.length_eq_zero_iff]
      omega
    intro line hline
    rw [← Text.visible_eq_nil_iff]
    exact List.flatMap_eq_nil_iff.mp hlost line hline
  · intro hblank
    rw [visible_take_drop n]
    apply List.flatMap_congr
    intro line hline
    rw [Text.visible_eq_nil_iff.mpr (hblank line hline), List.nil_append]

end Stencil.Dedent

namespace Stencil

/-- Of the text behind the first line, dedenting keeps all visible characters exactly when the
margin of every line is blank. In any case it keeps those behind the margins, line by line, and
loses those in the margins. -/
theorem dedent_visible (raw : String) :
    let text := Text.behindFirstLine raw.toList
    let margin := Dedent.depth text
    (Text.visible (dedent raw).toList = Text.visible text ↔
        ∀ line ∈ Text.splitLines text, ∀ c ∈ line.take margin, Text.isBlank c = true) ∧
      (Text.visible text = (Text.splitLines text).flatMap fun line =>
        Text.visible (line.take margin) ++ Text.visible (line.drop margin)) ∧
      Text.visible (dedent raw).toList =
        (Text.splitLines text).flatMap fun line => Text.visible (line.drop margin) := by
  intro text margin
  have hkept : Text.visible (dedent raw).toList = Text.visible (Dedent.unindent margin text) := by
    rw [dedent, String.toList_ofList, Dedent.visible_format]
  refine ⟨?_, ?_, ?_⟩
  · rw [hkept, Dedent.visible_unindent_eq_iff]
  · exact Dedent.visible_take_drop margin text
  · rw [hkept, Dedent.visible_unindent]

/-- A line that is indented less loses its first letters, a short one all of them. -/
example : dedent "\n    deep\n  shallow\n  ab\n    end\n" = "deep\nallow\n\nend\n" := rfl

end Stencil
