/-!
Texts cut into lines and put together again. Cutting is lossless: `joinLines_splitLines`. A line that
holds no line feed is cut off as it is: `splitLines_append`.
-/

namespace Stencil.Text

/-- The pieces between the line feeds. A text without a line feed is one line, so the result is
never empty. -/
def splitLines : List Char → List (List Char)
  | [] => [[]]
  | c :: rest =>
    match splitLines rest with
    | [] => [[c]]
    | line :: lines => if c = '\n' then [] :: line :: lines else (c :: line) :: lines

/-- The lines with a line feed between any two neighbours. -/
def joinLines : List (List Char) → List Char
  | [] => []
  | [line] => line
  | line :: lines => line ++ '\n' :: joinLines lines

theorem splitLines_ne_nil (text : List Char) : splitLines text ≠ [] := by
  cases text with
  | nil => simp [splitLines]
  | cons c rest =>
      simp only [splitLines]
      split
      · simp
      · split <;> simp

theorem joinLines_cons {line : List Char} {lines : List (List Char)} (h : lines ≠ []) :
    joinLines (line :: lines) = line ++ '\n' :: joinLines lines := by
  cases lines with
  | nil => exact absurd rfl h
  | cons _ _ => rfl

theorem joinLines_splitLines (text : List Char) : joinLines (splitLines text) = text := by
  induction text with
  | nil => rfl
  | cons c rest ih =>
      simp only [splitLines]
      split
      · next h => exact absurd h (splitLines_ne_nil rest)
      · next line lines h =>
        rw [h] at ih
        by_cases hc : c = '\n'
        · simp [hc, joinLines_cons, ih]
        · rw [if_neg hc]
          cases lines with
          | nil => simpa [joinLines] using congrArg (c :: ·) ih
          | cons next more => simpa [joinLines] using congrArg (c :: ·) ih

/-- A text without a line feed is one line. -/
theorem splitLines_of_not_mem {line : List Char} (h : '\n' ∉ line) : splitLines line = [line] := by
  induction line with
  | nil => rfl
  | cons c rest ih =>
      simp only [List.mem_cons, not_or] at h
      rw [splitLines, ih h.2]
      exact if_neg (Ne.symm h.1)

/-- The first line ends at the first line feed. -/
theorem splitLines_append {line : List Char} (h : '\n' ∉ line) (rest : List Char) :
    splitLines (line ++ '\n' :: rest) = line :: splitLines rest := by
  induction line with
  | nil =>
      rw [List.nil_append, splitLines]
      split
      · next hnil => exact absurd hnil (splitLines_ne_nil rest)
      · next first more hsplit => rw [if_pos rfl, hsplit]
  | cons c line ih =>
      simp only [List.mem_cons, not_or] at h
      rw [List.cons_append, splitLines, ih h.2]
      exact if_neg (Ne.symm h.1)

end Stencil.Text
