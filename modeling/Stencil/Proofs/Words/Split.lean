import Stencil.Text.Separated
import Stencil.Transform

/-!
What the split of a compound name keeps. The words together are the letters and digits of the name,
and none of them is empty. A word in one case is not cut again, so words that are written in one
case and put together with separators are the words of the text that they make.
-/

namespace Stencil.Words

variable {mode : Mode} {c separator : Char} {text word : List Char} {parts : List (List Char)}

theorem flatten_extend (c : Char) (parts : List (List Char)) :
    (extend c parts).flatten = c :: parts.flatten := by
  cases parts with
  | nil => rfl
  | cons word rest => rfl

theorem nil_not_mem_extend (h : [] ∉ parts.tail) : [] ∉ extend c parts := by
  cases parts with
  | nil => simp [extend]
  | cons word rest => simpa [extend] using h

/-- Cutting loses nothing. -/
theorem flatten_cut (mode : Mode) (text : List Char) : (cut mode text).flatten = text := by
  fun_induction cut mode text with
  | case1 => rfl
  | case2 => rfl
  | case3 mode c next rest hcut ih => rw [List.flatten_cons, ih, List.singleton_append]
  | case4 mode c next rest hno hcut ih =>
      rw [List.flatten_cons, flatten_extend, ih, List.nil_append]
  | case5 mode c next rest hno hcut ih => rw [flatten_extend, ih]

/-- The one word that can come out empty is the first, where capitals before the text belong to
it. -/
theorem nil_not_mem_cut (mode : Mode) (text : List Char) :
    [] ∉ (cut mode text).tail ∧ (mode ≠ .upper → [] ∉ cut mode text) := by
  fun_induction cut mode text with
  | case1 => simp
  | case2 => simp
  | case3 mode c next rest hcut ih =>
      have hrest : [] ∉ cut .boundary (next :: rest) := ih.2 (by decide)
      exact ⟨hrest, fun _ => by simpa using hrest⟩
  | case4 mode c next rest hno hcut ih =>
      exact ⟨nil_not_mem_extend ih.1, fun hmode => absurd hcut.1 hmode⟩
  | case5 mode c next rest hno hcut ih =>
      have hall := nil_not_mem_extend (c := c) ih.1
      exact ⟨fun hmem => hall (List.mem_of_mem_tail hmem), fun _ => hall⟩

theorem flatten_runs (text : List Char) :
    (runs text).flatten = text.filter Text.isAlphanumeric := by
  induction text with
  | nil => rfl
  | cons c rest ih =>
      rw [runs]
      split
      · next hc => rw [flatten_extend, ih, List.filter_cons_of_pos hc]
      · next hc => rw [List.flatten_cons, ih, List.filter_cons_of_neg hc, List.nil_append]

theorem flatten_words (text : List Char) :
    (words text).flatten = text.filter Text.isAlphanumeric := by
  rw [← flatten_runs, words, List.flatten_eq_flatMap, List.flatMap_assoc]
  simp only [List.flatMap_id, flatten_cut, List.flatMap_id']

theorem nil_not_mem_words (text : List Char) : [] ∉ words text := by
  intro hmem
  obtain ⟨run, -, hword⟩ := List.mem_flatMap.mp hmem
  exact (nil_not_mem_cut .boundary run).2 (by decide) hword

theorem mem_of_mem_words (hword : word ∈ words text) (hc : c ∈ word) :
    c ∈ text ∧ Text.isAlphanumeric c = true := by
  rw [← List.mem_filter, ← flatten_words]
  exact List.mem_flatten_of_mem hword hc

theorem runs_eq_splitOnP (text : List Char) :
    runs text = text.splitOnP fun c => !Text.isAlphanumeric c := by
  induction text with
  | nil => rfl
  | cons c rest ih =>
      rw [runs, List.splitOnP_cons_eq_if_modifyHead, ih]
      cases Text.isAlphanumeric c with
      | false => rfl
      | true =>
          obtain ⟨run, more, hruns⟩ :=
            List.exists_cons_of_ne_nil (List.splitOnP_ne_nil (fun c => !Text.isAlphanumeric c) rest)
          rw [hruns]
          rfl

/-- Each run of letters and digits in a text is cut by itself. -/
theorem words_join (hseparator : Text.isAlphanumeric separator = false)
    (h : ∀ word ∈ parts, ∀ c ∈ word, Text.isAlphanumeric c = true) :
    words (join separator parts) = parts.flatMap (cut .boundary) := by
  rw [words, runs_eq_splitOnP]
  by_cases hne : parts = []
  · subst hne
    rfl
  · rw [join, Text.splitOnP_intercalate (by simp [hseparator]) hne]
    simpa using h

/-- A word without capitals is one word. -/
theorem cut_of_no_upper (hne : word ≠ []) (h : ∀ c ∈ word, Text.isUpper c = false) (mode : Mode) :
    cut mode word = [word] := by
  fun_induction cut mode word with
  | case1 => exact absurd rfl hne
  | case2 => rfl
  | case3 mode c next rest hcut ih =>
      have hnext := h next (by simp)
      exact absurd hcut.2 (by simp [hnext])
  | case4 mode c next rest hno hcut ih =>
      have hc := h c (by simp)
      exact absurd hcut.2.1 (by simp [hc])
  | case5 mode c next rest hno hcut ih =>
      rw [ih (List.cons_ne_nil _ _) fun d hd => h d (List.mem_cons_of_mem c hd)]
      rfl

theorem Mode.next_ne_lower (hmode : mode ≠ .lower) (hc : Text.isLower c = false) :
    mode.next c ≠ .lower := by
  rw [Mode.next, hc]
  cases Text.isUpper c with
  | false => simpa using hmode
  | true => simp

/-- A word without small letters is one word, unless a small letter stands before it. -/
theorem cut_of_no_lower (hne : word ≠ []) (h : ∀ c ∈ word, Text.isLower c = false)
    (hmode : mode ≠ .lower) : cut mode word = [word] := by
  fun_induction cut mode word with
  | case1 => exact absurd rfl hne
  | case2 => rfl
  | case3 mode c next rest hcut ih =>
      exact absurd hcut.1 (Mode.next_ne_lower hmode (h c List.mem_cons_self))
  | case4 mode c next rest hno hcut ih =>
      have hnext := h next (by simp)
      exact absurd hcut.2.2 (by simp [hnext])
  | case5 mode c next rest hno hcut ih =>
      have hrest : ∀ d ∈ next :: rest, Text.isLower d = false :=
        fun d hd => h d (List.mem_cons_of_mem c hd)
      rw [ih (List.cons_ne_nil _ _) hrest (Mode.next_ne_lower hmode (h c List.mem_cons_self))]
      rfl

end Stencil.Words
