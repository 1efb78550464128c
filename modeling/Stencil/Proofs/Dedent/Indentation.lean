import Mathlib.Data.List.DropRight
import Mathlib.Data.List.Forall2
import Stencil.Dedent

/-!
Dedenting takes back an indentation. The first line of a body says how deep it is, and that many
characters go from the front of every line. Lines that were given a margin come back as they were,
whatever stands on the line in front of them and however many blanks are behind them.
-/

namespace Stencil.Text

variable {text blanks : List Char} {c : Char}

theorem trimEnd_isPrefix (text : List Char) : trimEnd text <+: text :=
  List.rdropWhile_prefix isBlank text

theorem trimEnd_append_of_visible (front : List Char) (h : isBlank c = false) :
    trimEnd (front ++ [c]) = front ++ [c] := by
  simp [trimEnd, h]

theorem trimEnd_of_getLast? (hlast : text.getLast? = some c) (h : isBlank c = false) :
    trimEnd text = text := by
  obtain ⟨front, rfl⟩ := List.getLast?_eq_some_iff.mp hlast
  exact trimEnd_append_of_visible front h

theorem trimEnd_append_of_blank (text : List Char) (h : ∀ c ∈ blanks, isBlank c = true) :
    trimEnd (text ++ blanks) = trimEnd text := by
  unfold trimEnd
  rw [List.reverse_append, List.dropWhile_append_of_pos]
  intro c hc
  exact h c (List.mem_reverse.mp hc)

theorem getLast?_joinLines {lines : List (List Char)} {line : List Char}
    (hline : lines.getLast? = some line) (hlast : line.getLast? = some c) :
    (joinLines lines).getLast? = some c := by
  induction lines with
  | nil => simp at hline
  | cons first rest ih =>
      cases rest with
      | nil =>
          obtain rfl : first = line := by simpa using hline
          exact hlast
      | cons next more =>
          rw [List.getLast?_cons_cons] at hline
          rw [joinLines_cons (by simp), List.getLast?_append, List.getLast?_cons, ih hline]
          rfl

theorem headD_splitLines (text : List Char) :
    (splitLines text).headD [] = text.takeWhile (· ≠ '\n') := by
  induction text with
  | nil => rfl
  | cons c rest ih =>
      rw [splitLines]
      split
      · next hnil => exact absurd hnil (splitLines_ne_nil rest)
      · next line lines hsplit =>
        rw [hsplit, List.headD_cons] at ih
        by_cases hc : c = '\n'
        · simp [hc]
        · simp [hc, ih]

theorem ne_newline_of_visible (h : isBlank c = false) : c ≠ '\n' := by
  rintro rfl
  cases h

theorem ne_newline_of_mem {line : List Char} (h : '\n' ∉ line) :
    ∀ c ∈ line, decide (c ≠ '\n') = true := by
  intro c hc
  rw [decide_eq_true_eq]
  rintro rfl
  exact h hc

/-- The first line does not end before the first line feed. -/
theorem takeWhile_line {line : List Char} (h : '\n' ∉ line) (rest : List Char) :
    (line ++ rest).takeWhile (· ≠ '\n') = line ++ rest.takeWhile (· ≠ '\n') :=
  List.takeWhile_append_of_pos (ne_newline_of_mem h)

/-- What is behind the first line feed of a text. -/
def behindFirstLine (text : List Char) : List Char :=
  (text.dropWhile (· ≠ '\n')).tail

theorem behindFirstLine_of_line {line : List Char} (h : '\n' ∉ line) :
    behindFirstLine line = [] := by
  rw [behindFirstLine, List.dropWhile_eq_nil_iff.mpr (ne_newline_of_mem h)]
  rfl

theorem behindFirstLine_of_lines {line : List Char} (h : '\n' ∉ line) (rest : List Char) :
    behindFirstLine (line ++ '\n' :: rest) = rest := by
  rw [behindFirstLine, List.dropWhile_append_of_pos (ne_newline_of_mem h)]
  simp

/-- A text is one line, or there is more behind its first one. -/
theorem line_or_more (text : List Char) :
    '\n' ∉ text ∨ ∃ line rest, '\n' ∉ line ∧ text = line ++ '\n' :: rest := by
  by_cases hbreak : '\n' ∈ text
  · obtain ⟨line, rest, htext, hline⟩ := List.eq_append_cons_of_mem hbreak
    exact Or.inr ⟨line, rest, hline, htext⟩
  · exact Or.inl hbreak

/-- A line is blank, or it has a margin in front of its first visible character. -/
theorem blank_or_margin (line : List Char) :
    (∀ c ∈ line, isBlank c = true) ∨ ∃ margin c rest, line = margin ++ c :: rest ∧
      (∀ blank ∈ margin, isBlank blank = true) ∧ isBlank c = false := by
  induction line with
  | nil => exact Or.inl fun c hc => absurd hc List.not_mem_nil
  | cons c rest ih =>
      cases hc : isBlank c with
      | false => exact Or.inr ⟨[], c, rest, rfl, fun b hb => absurd hb List.not_mem_nil, hc⟩
      | true =>
          rcases ih with hblank | ⟨margin, d, more, rfl, hmargin, hd⟩
          · exact Or.inl (List.forall_mem_cons.mpr ⟨hc, hblank⟩)
          · exact Or.inr ⟨c :: margin, d, more, rfl, List.forall_mem_cons.mpr ⟨hc, hmargin⟩, hd⟩

end Stencil.Text

namespace Stencil.Dedent

variable {margin line first text : List Char} {c : Char} {n : Nat}

/-- A line is indented by the blanks in front of its first visible character. -/
theorem indentation_margin (hmargin : ∀ blank ∈ margin, Text.isBlank blank = true)
    (hc : Text.isBlank c = false) (rest : List Char) :
    indentation (margin ++ c :: rest) = margin.length := by
  have hvisible : (margin ++ c :: rest).all Text.isBlank = false := by
    simp [hc]
  rw [indentation, hvisible, if_neg Bool.false_ne_true, List.takeWhile_append_of_pos hmargin,
    List.takeWhile_cons_of_neg (by simp [hc]), List.append_nil]

theorem indentation_of_blank (h : ∀ c ∈ line, Text.isBlank c = true) : indentation line = 0 := by
  rw [indentation, if_pos (List.all_eq_true.mpr h)]

theorem indentation_eq_zero_iff :
    indentation line = 0 ↔ (∀ c ∈ line, Text.isBlank c = true) ∨
      ∃ c ∈ line.head?, Text.isBlank c = false := by
  rcases Text.blank_or_margin line with hblank | ⟨margin, c, rest, rfl, hmargin, hc⟩
  · exact iff_of_true (indentation_of_blank hblank) (Or.inl hblank)
  · rw [indentation_margin hmargin hc]
    cases margin with
    | nil => exact iff_of_true rfl (Or.inr ⟨c, rfl, hc⟩)
    | cons blank more =>
        have hblank := hmargin blank List.mem_cons_self
        simp only [List.length_cons, Nat.add_eq_zero_iff, Nat.one_ne_zero, and_false, false_iff]
        rintro (hall | ⟨d, hhead, hd⟩)
        · have hvisible := hall c (by simp)
          rw [hc] at hvisible
          cases hvisible
        · obtain rfl : blank = d := by simpa using hhead
          rw [hblank] at hd
          cases hd

theorem indentation_le_length (line : List Char) : indentation line ≤ line.length := by
  rw [indentation]
  split
  · exact Nat.zero_le _
  · exact (List.takeWhile_sublist _).length_le

/-- How far the first line of a text is indented. -/
def depth (text : List Char) : Nat := indentation ((Text.splitLines text).headD [])

theorem depth_eq (text : List Char) : depth text = indentation (text.takeWhile (· ≠ '\n')) := by
  rw [depth, Text.headD_splitLines]

theorem depth_eq_zero_iff :
    depth text = 0 ↔ (∀ c ∈ text.takeWhile (· ≠ '\n'), Text.isBlank c = true) ∨
      ∃ c ∈ (text.takeWhile (· ≠ '\n')).head?, Text.isBlank c = false := by
  rw [depth_eq, indentation_eq_zero_iff]

theorem depth_of_line (h : '\n' ∉ line) : depth line = indentation line := by
  rw [depth, Text.splitLines_of_not_mem h]
  rfl

theorem depth_of_lines (h : '\n' ∉ line) (rest : List Char) :
    depth (line ++ '\n' :: rest) = indentation line := by
  rw [depth, Text.splitLines_append h]
  rfl

theorem depth_margin (hmargin : ∀ blank ∈ margin, Text.isBlank blank = true)
    (hbreak : '\n' ∉ margin) (hc : Text.isBlank c = false) (rest : List Char) :
    depth (margin ++ c :: rest) = margin.length := by
  rw [depth_eq, Text.takeWhile_line hbreak,
    List.takeWhile_cons_of_pos (by simpa using Text.ne_newline_of_visible hc),
    indentation_margin hmargin hc]

/-- A text with some characters less at the front of every line. -/
def unindent (n : Nat) (text : List Char) : List Char :=
  Text.joinLines ((Text.splitLines text).map (·.drop n))

theorem unindent_zero (text : List Char) : unindent 0 text = text := by
  simp [unindent, Text.joinLines_splitLines]

theorem unindent_of_line (h : '\n' ∉ line) (n : Nat) : unindent n line = line.drop n := by
  rw [unindent, Text.splitLines_of_not_mem h]
  rfl

theorem unindent_of_lines (h : '\n' ∉ line) (n : Nat) (rest : List Char) :
    unindent n (line ++ '\n' :: rest) = line.drop n ++ '\n' :: unindent n rest := by
  rw [unindent, Text.splitLines_append h, List.map_cons, Text.joinLines_cons]
  · rfl
  · simp [Text.splitLines_ne_nil]

theorem joinLines_drop_sublist (n : Nat) (lines : List (List Char)) :
    (Text.joinLines (lines.map (·.drop n))).Sublist (Text.joinLines lines) := by
  induction lines with
  | nil => exact List.Sublist.refl _
  | cons line rest ih =>
      cases rest with
      | nil => exact List.drop_sublist n line
      | cons next more =>
          rw [List.map_cons, Text.joinLines_cons (by simp), Text.joinLines_cons (by simp)]
          exact (List.drop_sublist n line).append (ih.cons_cons '\n')

theorem unindent_sublist (n : Nat) (text : List Char) : (unindent n text).Sublist text := by
  have h := joinLines_drop_sublist n (Text.splitLines text)
  rwa [Text.joinLines_splitLines] at h

/-- What is behind the front of the first line only becomes less. -/
theorem unindent_append (hline : '\n' ∉ line) (hn : n ≤ line.length) (tail : List Char) :
    ∃ rest, unindent n (line ++ tail) = line.drop n ++ rest ∧ rest.Sublist tail := by
  rcases Text.line_or_more tail with hbreak | ⟨front, back, hfront, rfl⟩
  · refine ⟨tail, ?_, List.Sublist.refl _⟩
    have hwhole : '\n' ∉ line ++ tail := by simp [hline, hbreak]
    rw [unindent_of_line hwhole, List.drop_append_of_le_length hn]
  · refine ⟨front ++ '\n' :: unindent n back, ?_, ?_⟩
    · have hwhole : '\n' ∉ line ++ front := by simp [hline, hfront]
      rw [← List.append_assoc, unindent_of_lines hwhole, List.drop_append_of_le_length hn,
        List.append_assoc]
    · exact (List.Sublist.refl front).append ((unindent_sublist n back).cons_cons '\n')

theorem format_of_line (h : '\n' ∉ first) : format first = ['\n'] := by
  rw [format, body, Text.splitLines_of_not_mem h]
  rfl

/-- The first line goes, and the next one says how deep the others are. -/
theorem format_of_lines (h : '\n' ∉ first) (text : List Char) :
    format (first ++ '\n' :: text) = Text.trimEnd (unindent (depth text) text) ++ ['\n'] := by
  rw [format, body, Text.splitLines_append h]
  rfl

/-- What is behind the first line says itself how deep it is. Without a line feed nothing is. -/
theorem format_eq (raw : List Char) :
    format raw = Text.trimEnd (unindent (depth (Text.behindFirstLine raw))
      (Text.behindFirstLine raw)) ++ ['\n'] := by
  rcases Text.line_or_more raw with hline | ⟨first, text, hfirst, rfl⟩
  · rw [format_of_line hline, Text.behindFirstLine_of_line hline]
    rfl
  · rw [format_of_lines hfirst, Text.behindFirstLine_of_lines hfirst]

/-- How a line stands in an indented body: behind the margin, or, when it is empty, as anything that
is not longer than the margin. -/
inductive Indented (margin : List Char) : List Char → List Char → Prop where
  | line {line : List Char} : '\n' ∉ line → Indented margin line (margin ++ line)
  | empty {raw : List Char} : '\n' ∉ raw → raw.length ≤ margin.length → Indented margin [] raw

variable {lines raws : List (List Char)} {raw tail : List Char}

theorem Indented.newline_not_mem (h : Indented margin line raw) (hbreak : '\n' ∉ margin) :
    '\n' ∉ raw := by
  cases h with
  | line hline => simp [hbreak, hline]
  | empty hraw _ => exact hraw

theorem Indented.drop_eq (h : Indented margin line raw) : raw.drop margin.length = line := by
  cases h with
  | line _ => exact List.drop_left
  | empty _ hlength => exact List.drop_of_length_le hlength

theorem Indented.eq_append (h : Indented margin line raw) (hne : line ≠ []) :
    raw = margin ++ line := by
  cases h with
  | line _ => rfl
  | empty _ _ => exact absurd rfl hne

/-- The margin goes from every line. Of the blanks behind the last line some may be left. -/
theorem unindent_indented (hbreak : '\n' ∉ margin)
    (hlines : List.Forall₂ (Indented margin) lines raws)
    (hlast : ∃ line ∈ lines.getLast?, line ≠ []) (tail : List Char) :
    ∃ rest, unindent margin.length (Text.joinLines raws ++ tail) = Text.joinLines lines ++ rest ∧
      rest.Sublist tail := by
  induction hlines with
  | nil => simp at hlast
  | @cons line raw lines raws hline hrest ih =>
      have hraw := hline.newline_not_mem hbreak
      cases hrest with
      | nil =>
          -- The tail goes on in this line; the margin is not in the tail, as the line is not empty.
          have hne : line ≠ [] := by simpa using hlast
          have hlength : margin.length ≤ raw.length := by
            rw [hline.eq_append hne, List.length_append]
            omega
          obtain ⟨rest, hunindent, hsublist⟩ := unindent_append hraw hlength tail
          rw [hline.drop_eq] at hunindent
          exact ⟨rest, hunindent, hsublist⟩
      | @cons next nextRaw lines raws _ _ =>
          rw [List.getLast?_cons_cons] at hlast
          obtain ⟨rest, hunindent, hsublist⟩ := ih hlast
          refine ⟨rest, ?_, hsublist⟩
          rw [Text.joinLines_cons (List.cons_ne_nil nextRaw raws),
            Text.joinLines_cons (List.cons_ne_nil next lines), List.append_assoc, List.cons_append,
            unindent_of_lines hraw, hunindent, hline.drop_eq, List.append_assoc, List.cons_append]

theorem depth_indented (hmargin : ∀ blank ∈ margin, Text.isBlank blank = true)
    (hbreak : '\n' ∉ margin) (hlines : List.Forall₂ (Indented margin) lines raws)
    (hhead : ∃ line ∈ lines.head?, ∃ c ∈ line.head?, Text.isBlank c = false) (tail : List Char) :
    depth (Text.joinLines raws ++ tail) = margin.length := by
  obtain ⟨line, hline, c, hc, hvisible⟩ := hhead
  obtain ⟨more, rfl⟩ := List.head?_eq_some_iff.mp hc
  cases hlines with
  | nil => cases hline
  | @cons first raw lines raws hfirst hrest =>
      obtain rfl : first = c :: more := by simpa using hline
      obtain rfl := hfirst.eq_append (List.cons_ne_nil c more)
      cases raws with
      | nil =>
          rw [Text.joinLines, List.append_assoc, List.cons_append,
            depth_margin hmargin hbreak hvisible]
      | cons next raws =>
          rw [Text.joinLines_cons (by simp), List.append_assoc, List.append_assoc, List.cons_append,
            depth_margin hmargin hbreak hvisible]

/-- Dedenting gives back the lines of an indented body. -/
theorem format_indented (hfirst : '\n' ∉ first)
    (hmargin : ∀ blank ∈ margin, Text.isBlank blank = true) (hbreak : '\n' ∉ margin)
    (hlines : List.Forall₂ (Indented margin) lines raws)
    (hhead : ∃ line ∈ lines.head?, ∃ c ∈ line.head?, Text.isBlank c = false)
    (hlast : ∃ line ∈ lines.getLast?, ∃ c ∈ line.getLast?, Text.isBlank c = false)
    (htail : ∀ c ∈ tail, Text.isBlank c = true) :
    format (first ++ '\n' :: (Text.joinLines raws ++ tail)) = Text.joinLines lines ++ ['\n'] := by
  obtain ⟨last, hlastLine, d, hd, hvisible⟩ := hlast
  have hne : last ≠ [] := by
    rintro rfl
    cases hd
  obtain ⟨rest, hunindent, hsublist⟩ :=
    unindent_indented hbreak hlines ⟨last, hlastLine, hne⟩ tail
  have hblank : ∀ c ∈ rest, Text.isBlank c = true := fun c hc => htail c (hsublist.subset hc)
  have hend := Text.getLast?_joinLines hlastLine hd
  rw [format_of_lines hfirst, depth_indented hmargin hbreak hlines hhead, hunindent,
    Text.trimEnd_append_of_blank _ hblank, Text.trimEnd_of_getLast? hend hvisible]

/-- Dedenting gives back the lines that a margin was put in front of. -/
theorem format_margin (hfirst : '\n' ∉ first)
    (hmargin : ∀ blank ∈ margin, Text.isBlank blank = true) (hbreak : '\n' ∉ margin)
    (hlines : ∀ line ∈ lines, '\n' ∉ line)
    (hhead : ∃ line ∈ lines.head?, ∃ c ∈ line.head?, Text.isBlank c = false)
    (hlast : ∃ line ∈ lines.getLast?, ∃ c ∈ line.getLast?, Text.isBlank c = false) :
    format (first ++ '\n' :: Text.joinLines (lines.map (margin ++ ·))) =
      Text.joinLines lines ++ ['\n'] := by
  have hindented : List.Forall₂ (Indented margin) lines (lines.map (margin ++ ·)) := by
    rw [List.forall₂_map_right_iff, List.forall₂_same]
    intro line hline
    exact Indented.line (hlines line hline)
  have hformat := format_indented hfirst hmargin hbreak hindented hhead hlast
    (fun c (hc : c ∈ []) => absurd hc List.not_mem_nil)
  rwa [List.append_nil] at hformat

end Stencil.Dedent

namespace Stencil

/-- An indented body comes back as its lines. The line in front may hold anything, a line may be
indented deeper than the first one or end in blanks, and what stands for an empty line may even be
visible as long as it is not longer than the margin. Blanks behind the last line become one line
feed. -/
theorem dedent_indented (first margin tail : List Char) (lines raws : List (List Char))
    (hfirst : '\n' ∉ first) (hmargin : ∀ blank ∈ margin, Text.isBlank blank = true)
    (hbreak : '\n' ∉ margin)
    (hlines : List.Forall₂ (Dedent.Indented margin) lines raws)
    (hhead : ∃ line ∈ lines.head?, ∃ c ∈ line.head?, Text.isBlank c = false)
    (hlast : ∃ line ∈ lines.getLast?, ∃ c ∈ line.getLast?, Text.isBlank c = false)
    (htail : ∀ c ∈ tail, Text.isBlank c = true) :
    dedent (String.ofList (first ++ '\n' :: (Text.joinLines raws ++ tail))) =
      String.ofList (Text.joinLines lines ++ ['\n']) := by
  rw [dedent, String.toList_ofList,
    Dedent.format_indented hfirst hmargin hbreak hlines hhead hlast htail]

/-- The margin is a tab and a no-break space. The empty line is written as two letters, and a
carriage return is among the blanks at the end. -/
theorem dedent_branch :
    List.Forall₂ (Dedent.Indented "\t\u00a0".toList)
        ["if a:".toList, "  b".toList, [], "c".toList]
        ["\t\u00a0if a:".toList, "\t\u00a0  b".toList, "xy".toList, "\t\u00a0c".toList] ∧
      dedent "top\n\t\u00a0if a:\n\t\u00a0  b\nxy\n\t\u00a0c \r\n\n\u3000" =
        "if a:\n  b\n\nc\n" := by
  have hlines : List.Forall₂ (Dedent.Indented "\t\u00a0".toList)
      ["if a:".toList, "  b".toList, [], "c".toList]
      ["\t\u00a0if a:".toList, "\t\u00a0  b".toList, "xy".toList, "\t\u00a0c".toList] := by
    refine .cons (.line ?_) (.cons (.line ?_) (.cons (.empty ?_ ?_) (.cons (.line ?_) .nil)))
    all_goals decide
  have hmargin : ∀ blank ∈ "\t\u00a0".toList, Text.isBlank blank = true := List.all_eq_true.mp rfl
  have htail : ∀ c ∈ " \r\n\n\u3000".toList, Text.isBlank c = true := List.all_eq_true.mp rfl
  have hdedent := dedent_indented "top".toList _ _ _ _ (by decide) hmargin (by decide) hlines
    ⟨_, rfl, 'i', rfl, rfl⟩ ⟨_, rfl, 'c', rfl, rfl⟩ htail
  exact ⟨hlines, hdedent⟩

end Stencil
