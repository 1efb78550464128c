/-!
Texts put together with one character between any two of them.
-/

namespace Stencil.Text

variable {p : Char → Bool} {separator : Char} {words : List (List Char)}

theorem intercalate_singleton_cons (separator : Char) (first : List Char)
    (rest : List (List Char)) :
    List.intercalate [separator] (first :: rest) = first ++ rest.flatMap (separator :: ·) := by
  induction rest generalizing first with
  | nil => rw [List.intercalate_singleton, List.flatMap_nil, List.append_nil]
  | cons second rest ih =>
      rw [List.intercalate_cons_cons, ih, List.flatMap_cons, List.append_assoc,
        List.singleton_append, List.cons_append]

theorem map_intercalate_singleton (f : Char → Char) (separator : Char)
    (words : List (List Char)) :
    (List.intercalate [separator] words).map f =
      List.intercalate [f separator] (words.map (List.map f)) := by
  cases words with
  | nil => rfl
  | cons first rest =>
      rw [List.map_cons, intercalate_singleton_cons, intercalate_singleton_cons, List.map_append,
        List.map_flatMap, List.flatMap_map]
      rfl

/-- Without the separators the words stand one behind the other. -/
theorem filter_intercalate_singleton (hseparator : p separator = false)
    (h : ∀ word ∈ words, ∀ c ∈ word, p c = true) :
    (List.intercalate [separator] words).filter p = words.flatten := by
  induction words with
  | nil => rfl
  | cons word rest ih =>
      obtain ⟨hword, hrest⟩ := List.forall_mem_cons.mp h
      have hseparators : [separator].filter p = [] := by simp [hseparator]
      cases rest with
      | nil =>
          rw [List.intercalate_singleton, List.filter_eq_self.mpr hword, List.flatten_cons,
            List.flatten_nil, List.append_nil]
      | cons next more =>
          rw [List.intercalate_cons_cons, List.filter_append, List.filter_append, hseparators,
            ih hrest, List.filter_eq_self.mpr hword, List.append_nil, List.flatten_cons (l := word)]

/-- Words in which nothing separates come back from the text that they are put together in. -/
theorem splitOnP_intercalate (hseparator : p separator = true) (hne : words ≠ [])
    (h : ∀ word ∈ words, ∀ c ∈ word, p c = false) :
    (List.intercalate [separator] words).splitOnP p = words := by
  induction words with
  | nil => exact absurd rfl hne
  | cons word rest ih =>
      obtain ⟨hword, hrest⟩ := List.forall_mem_cons.mp h
      cases rest with
      | nil => rw [List.intercalate_singleton, List.splitOnP_eq_singleton hword]
      | cons next more =>
          rw [List.intercalate_cons_cons, List.append_assoc, List.singleton_append,
            List.splitOnP_append_cons _ _ hseparator, List.splitOnP_eq_singleton hword,
            ih (List.cons_ne_nil next more) hrest, List.singleton_append]

end Stencil.Text
