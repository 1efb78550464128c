import Stencil.Config.Entry
import Stencil.Proofs.Dedent.Steady
import Stencil.Proofs.Registry.Edit

/-!
The texts that dedenting gives. They end in one line feed with no blank in front of it, and their
first line is not indented. Dedenting gives every text of this form and no other, and it keeps such
a text when that is a body already.
-/

namespace Stencil.Text

variable {front text : List Char}

theorem takeWhile_prefix_takeWhile (p : Char → Bool) (h : front <+: text) :
    front.takeWhile p <+: text.takeWhile p := by
  obtain ⟨back, rfl⟩ := h
  rw [List.takeWhile_append]
  split
  · have hfront : front.takeWhile p <+: front := List.takeWhile_prefix p
    exact hfront.trans (List.prefix_append front _)
  · exact List.prefix_refl _

theorem trimEnd_append_newline (text : List Char) :
    trimEnd (trimEnd text ++ ['\n']) = trimEnd text := by
  have hnewline : ∀ c ∈ ['\n'], isBlank c = true := by simp [isBlank]
  rw [trimEnd_append_of_blank _ hnewline]
  exact List.rdropWhile_idempotent isBlank text

end Stencil.Text

namespace Stencil.Dedent

variable {line front text : List Char}

/-- The form of a dedented text. A first line of blanks alone is not an indented one. -/
structure Normal (text : List Char) : Prop where
  ends : text = Text.trimEnd text ++ ['\n']
  begins : (∀ c ∈ text.takeWhile (· ≠ '\n'), Text.isBlank c = true) ∨
    ∃ c ∈ (text.takeWhile (· ≠ '\n')).head?, Text.isBlank c = false

theorem normal_iff : Normal text ↔ text = Text.trimEnd text ++ ['\n'] ∧ depth text = 0 := by
  rw [depth_eq_zero_iff]
  exact ⟨fun h => ⟨h.ends, h.begins⟩, fun h => ⟨h.1, h.2⟩⟩

/-- A text in normal form is kept as a whole. -/
theorem Normal.format_eq (h : Normal text) : format ('\n' :: text) = text := by
  obtain ⟨hends, hdepth⟩ := normal_iff.mp h
  rw [format_of_depth hdepth, ← hends]

theorem indentation_of_prefix (h : front <+: line) (hline : indentation line = 0) :
    indentation front = 0 := by
  rw [indentation_eq_zero_iff] at hline ⊢
  rcases hline with hblank | ⟨c, hhead, hc⟩
  · exact Or.inl fun c hc => hblank c (h.subset hc)
  · cases front with
    | nil => exact Or.inl fun c hc => absurd hc List.not_mem_nil
    | cons d more =>
        obtain ⟨rest, rfl⟩ := h
        exact Or.inr ⟨c, hhead, hc⟩

/-- To shorten a text at its end does not indent it. -/
theorem depth_of_prefix (h : front <+: text) (htext : depth text = 0) : depth front = 0 := by
  rw [depth_eq] at htext ⊢
  exact indentation_of_prefix (Text.takeWhile_prefix_takeWhile _ h) htext

theorem depth_append_newline (text : List Char) : depth (text ++ ['\n']) = depth text := by
  rcases Text.line_or_more text with hline | ⟨line, rest, hline, rfl⟩
  · rw [depth_of_lines hline, depth_of_line hline]
  · rw [List.append_assoc, List.cons_append, depth_of_lines hline, depth_of_lines hline]

theorem indentation_drop (line : List Char) :
    indentation (line.drop (indentation line)) = 0 := by
  rcases Text.blank_or_margin line with hblank | ⟨margin, c, rest, rfl, hmargin, hc⟩
  · rw [indentation_of_blank hblank, List.drop_zero, indentation_of_blank hblank]
  · rw [indentation_margin hmargin hc, List.drop_left]
    exact indentation_eq_zero_iff.mpr (Or.inr ⟨c, rfl, hc⟩)

/-- Once the depth of its first line went from every line, a text is not indented any more. -/
theorem depth_unindent (text : List Char) : depth (unindent (depth text) text) = 0 := by
  rcases Text.line_or_more text with hline | ⟨line, rest, hline, rfl⟩
  · have hdropped : '\n' ∉ text.drop (depth text) := fun h => hline (List.mem_of_mem_drop h)
    rw [unindent_of_line hline, depth_of_line hdropped, depth_of_line hline, indentation_drop]
  · have hdropped : '\n' ∉ line.drop (indentation line) := fun h => hline (List.mem_of_mem_drop h)
    rw [depth_of_lines hline, unindent_of_lines hline, depth_of_lines hdropped, indentation_drop]

theorem normal_of_depth (h : depth text = 0) : Normal (Text.trimEnd text ++ ['\n']) := by
  rw [normal_iff, Text.trimEnd_append_newline, depth_append_newline]
  exact ⟨rfl, depth_of_prefix (Text.trimEnd_isPrefix text) h⟩

theorem normal_format (raw : List Char) : Normal (format raw) := by
  rw [format_eq]
  exact normal_of_depth (depth_unindent _)

end Stencil.Dedent

namespace Stencil

variable {text : String}

theorem normal_dedent (raw : String) : Dedent.Normal (dedent raw).toList := by
  rw [dedent, String.toList_ofList]
  exact Dedent.normal_format raw.toList

theorem dedent_of_normal (h : Dedent.Normal text.toList) : dedent ("\n" ++ text) = text := by
  have hdedent := dedent_newline_append text.toList
  rwa [h.format_eq, String.ofList_toList] at hdedent

/-- Whatever the actions of a configured template do to the registry, they give its body with a line
feed in front. -/
theorem Entry.content_eq {entry : Entry} {body content : String} {registry next : Registry}
    (h : Action.runAll registry (entry.actions body) = (.ok content, next)) :
    content = "\n" ++ body := by
  unfold Entry.actions at h
  generalize entry.replacers = replacers at h
  induction replacers generalizing registry content with
  | nil =>
      simp only [List.map_nil, List.nil_append, Action.runAll, Action.run, Prod.mk.injEq,
        Except.ok.injEq, String.append_empty] at h
      exact h.1.symm
  | cons replacer rest ih =>
      rw [List.map_cons, List.cons_append] at h
      obtain ⟨text, middle, more, hrun, hrest, rfl⟩ := Action.runAll_cons_eq_ok_iff.mp h
      obtain ⟨rfl, -⟩ := Action.run_attach_eq_ok_iff.mp hrun
      rw [String.empty_append]
      exact ih hrest

/-- Dedenting once more changes nothing; the texts in normal form are those that dedenting gives;
and a configured body of this form comes through as it is. -/
theorem dedent_normal_form :
    (∀ raw, dedent ("\n" ++ dedent raw) = dedent raw) ∧
      (∀ text, (∃ raw, dedent raw = text) ↔ Dedent.Normal text.toList) ∧
      ∀ (entry : Entry) (body content : String) (registry next : Registry),
        Action.runAll registry (entry.actions body) = (.ok content, next) →
        Dedent.Normal body.toList → dedent content = body := by
  refine ⟨?_, ?_, ?_⟩
  · intro raw
    exact dedent_of_normal (normal_dedent raw)
  · intro text
    constructor
    · rintro ⟨raw, rfl⟩
      exact normal_dedent raw
    · intro hnormal
      exact ⟨_, dedent_of_normal hnormal⟩
  · intro entry body content registry next hrun hnormal
    rw [Entry.content_eq hrun, dedent_of_normal hnormal]

/-- The first line of the body is a blank one, so the second may stay indented. -/
theorem dedent_blank_line :
    ∃ (entry : Entry) (registry next : Registry),
      Action.runAll registry (entry.actions " \n\tname\n") = (.ok "\n \n\tname\n", next) ∧
        Dedent.Normal " \n\tname\n".toList ∧ dedent "\n \n\tname\n" = " \n\tname\n" := by
  let entry : Entry :=
    ⟨"note", none, none, "", some " \n\tname\n", none, [("name", .plain (.string "n"))], true⟩
  let registry : Registry := ⟨"$", entry.declared, [("name", ⟨.string "n", none⟩)]⟩
  have hrun : Action.runAll registry (entry.actions " \n\tname\n") =
      (.ok "\n \n\tname\n", registry) := rfl
  have hnormal : Dedent.Normal " \n\tname\n".toList := ⟨rfl, Or.inl (List.all_eq_true.mp rfl)⟩
  exact ⟨entry, registry, registry, hrun, hnormal,
    dedent_normal_form.2.2 entry _ _ registry registry hrun hnormal⟩

end Stencil
