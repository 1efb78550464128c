import Stencil.Proofs.Dedent.Indentation

/-!
Texts that dedenting keeps. There is nothing to take back in them, at the front or at the end; these
are the steady texts, and every other one becomes shorter.
-/

namespace Stencil.Text

variable {text : List Char} {c : Char}

theorem length_trimEnd_lt (hlast : text.getLast? = some c) (h : isBlank c = true) :
    (trimEnd text).length < text.length := by
  obtain ⟨front, rfl⟩ := List.getLast?_eq_some_iff.mp hlast
  have hle := (trimEnd_isPrefix front).length_le
  have hblank : ∀ d ∈ [c], isBlank d = true := by simpa using h
  rw [trimEnd_append_of_blank front hblank, List.length_append, List.length_singleton]
  omega

end Stencil.Text

namespace Stencil.Dedent

variable {margin text : List Char} {c : Char}

/-- A text that dedenting keeps as it is. No blank ends it, and if it begins with blanks, these
fill its first line. -/
structure Steady (text : List Char) : Prop where
  ends : ∀ c ∈ text.getLast?, Text.isBlank c = false
  begins : text.takeWhile Text.isBlank = [] ∨ '\n' ∈ text.takeWhile Text.isBlank

instance (text : List Char) : Decidable (Steady text) :=
  -- Named, as a search could as well go through all characters.
  have : Decidable (∀ c ∈ text.getLast?, Text.isBlank c = false) :=
    Option.decidableForallMem text.getLast?
  decidable_of_iff ((∀ c ∈ text.getLast?, Text.isBlank c = false) ∧
      (text.takeWhile Text.isBlank = [] ∨ '\n' ∈ text.takeWhile Text.isBlank))
    ⟨fun h => ⟨h.1, h.2⟩, fun h => ⟨h.ends, h.begins⟩⟩

theorem depth_of_blank (h : ∀ c ∈ text, Text.isBlank c = true) : depth text = 0 := by
  rw [depth_eq_zero_iff]
  refine Or.inl ?_
  intro c hc
  exact h c ((List.takeWhile_subset _) hc)

/-- Blanks in front of a visible character are no indentation only if they end on another line. -/
theorem depth_margin_eq_zero_iff (hmargin : ∀ blank ∈ margin, Text.isBlank blank = true)
    (hc : Text.isBlank c = false) (rest : List Char) :
    depth (margin ++ c :: rest) = 0 ↔ margin = [] ∨ '\n' ∈ margin := by
  by_cases hbreak : '\n' ∈ margin
  · obtain ⟨front, back, rfl, hfront⟩ := List.eq_append_cons_of_mem hbreak
    rw [List.append_assoc, List.cons_append, depth_of_lines hfront]
    refine iff_of_true (indentation_of_blank ?_) (Or.inr hbreak)
    intro blank hblank
    exact hmargin blank (List.mem_append_left _ hblank)
  · rw [depth_margin hmargin hbreak hc, List.length_eq_zero_iff, or_iff_left hbreak]

theorem takeWhile_margin (hmargin : ∀ blank ∈ margin, Text.isBlank blank = true)
    (hc : Text.isBlank c = false) (rest : List Char) :
    (margin ++ c :: rest).takeWhile Text.isBlank = margin := by
  rw [List.takeWhile_append_of_pos hmargin, List.takeWhile_cons_of_neg (by simp [hc]),
    List.append_nil]

theorem Steady.depth_eq (h : Steady text) : depth text = 0 := by
  rcases Text.blank_or_margin text with hblank | ⟨margin, c, rest, rfl, hmargin, hc⟩
  · exact depth_of_blank hblank
  · have hbegins := h.begins
    rw [takeWhile_margin hmargin hc] at hbegins
    exact (depth_margin_eq_zero_iff hmargin hc rest).mpr hbegins

theorem steady_of_depth (hends : ∀ c ∈ text.getLast?, Text.isBlank c = false)
    (h : depth text = 0) : Steady text := by
  refine ⟨hends, ?_⟩
  rcases Text.blank_or_margin text with hblank | ⟨margin, c, rest, rfl, hmargin, hc⟩
  · cases hlast : text.getLast? with
    | none =>
        rw [List.getLast?_eq_none_iff.mp hlast]
        exact Or.inl rfl
    | some c =>
        have hvisible := hends c hlast
        rw [hblank c (List.mem_of_getLast? hlast)] at hvisible
        cases hvisible
  · rw [takeWhile_margin hmargin hc]
    exact (depth_margin_eq_zero_iff hmargin hc rest).mp h

theorem format_cons_newline (text : List Char) :
    format ('\n' :: text) = Text.trimEnd (unindent (depth text) text) ++ ['\n'] :=
  format_of_lines List.not_mem_nil text

theorem format_of_depth (h : depth text = 0) :
    format ('\n' :: text) = Text.trimEnd text ++ ['\n'] := by
  rw [format_cons_newline, h, unindent_zero]

/-- Dedenting keeps a steady text and puts one line feed behind it. -/
theorem Steady.format_eq (h : Steady text) : format ('\n' :: text) = text ++ ['\n'] := by
  rw [format_of_depth h.depth_eq]
  cases hlast : text.getLast? with
  | none =>
      rw [List.getLast?_eq_none_iff] at hlast
      rw [hlast]
      rfl
  | some c => rw [Text.trimEnd_of_getLast? hlast (h.ends c hlast)]

/-- At least as many characters go as the first line is indented by. -/
theorem length_unindent_depth_le (text : List Char) :
    (unindent (depth text) text).length + depth text ≤ text.length := by
  have hline : '\n' ∉ text.takeWhile (· ≠ '\n') := by
    intro hmem
    simpa using List.mem_takeWhile_imp hmem
  have hdepth : depth text ≤ (text.takeWhile (· ≠ '\n')).length := by
    rw [depth_eq]
    exact indentation_le_length _
  obtain ⟨rest, hunindent, hsublist⟩ :=
    unindent_append hline hdepth (text.dropWhile (· ≠ '\n'))
  rw [List.takeWhile_append_dropWhile] at hunindent
  have htext := congrArg List.length
    (List.takeWhile_append_dropWhile (p := (· ≠ '\n')) (l := text))
  have hrest := hsublist.length_le
  rw [List.length_append] at htext
  rw [hunindent, List.length_append, List.length_drop]
  omega

/-- Of any other text dedenting takes something away, at the front or at the end. -/
theorem length_format_le (h : ¬ Steady text) : (format ('\n' :: text)).length ≤ text.length := by
  rw [format_cons_newline, List.length_append, List.length_singleton]
  by_cases hdepth : depth text = 0
  · have hlast : ∃ c ∈ text.getLast?, Text.isBlank c = true := by
      by_contra hnot
      apply h
      refine steady_of_depth ?_ hdepth
      intro c hc
      rw [← Bool.not_eq_true]
      exact fun hblank => hnot ⟨c, hc, hblank⟩
    obtain ⟨c, hc, hblank⟩ := hlast
    have hshorter := Text.length_trimEnd_lt hc hblank
    rw [hdepth, unindent_zero]
    omega
  · have hunindent := length_unindent_depth_le text
    have htrim := (Text.trimEnd_isPrefix (unindent (depth text) text)).length_le
    omega

end Stencil.Dedent

namespace Stencil

theorem dedent_newline_append (chars : List Char) :
    dedent ("\n" ++ String.ofList chars) = String.ofList (Dedent.format ('\n' :: chars)) := by
  simp [dedent]

end Stencil
