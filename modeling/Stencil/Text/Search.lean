/-!
Finding one text in another, on lists of characters.
-/

namespace Stencil.Text

/-- Cuts a text at the first occurrence of `pattern`: what lies before it, and the rest that begins
with it. The empty pattern occurs at the start. -/
def breakOn? (pattern : List Char) : List Char → Option (List Char × List Char)
  | [] => if pattern.isEmpty then some ([], []) else none
  | c :: rest =>
    if pattern.isPrefixOf (c :: rest) then some ([], c :: rest)
    else (breakOn? pattern rest).map fun (before, found) => (c :: before, found)

/-- The text without `ending`, when it ends in it. -/
def dropEnding? (ending text : List Char) : Option (List Char) :=
  if ending.isSuffixOf text then some (text.take (text.length - ending.length)) else none

theorem dropEnding?_append (front ending : List Char) :
    dropEnding? ending (front ++ ending) = some front := by
  simp [dropEnding?]

theorem dropEnding?_of_not_suffix {ending text : List Char} (h : ¬ ending <:+ text) :
    dropEnding? ending text = none :=
  if_neg fun hends => h (List.isSuffixOf_iff_suffix.1 hends)

theorem breakOn?_of_prefix {pattern rest : List Char} {c : Char} (h : pattern <+: c :: rest) :
    breakOn? pattern (c :: rest) = some ([], c :: rest) :=
  if_pos (List.isPrefixOf_iff_prefix.2 h)

theorem breakOn?_of_not_prefix {pattern rest : List Char} {c : Char}
    (h : ¬ pattern <+: c :: rest) :
    breakOn? pattern (c :: rest) =
      (breakOn? pattern rest).map fun (before, found) => (c :: before, found) :=
  if_neg fun hbegins => h (List.isPrefixOf_iff_prefix.1 hbegins)

/-- A single character is found at its first occurrence. -/
theorem breakOn?_singleton_append {c : Char} {front : List Char} (hfront : c ∉ front)
    (back : List Char) : breakOn? [c] (front ++ c :: back) = some (front, c :: back) := by
  induction front with
  | nil => exact breakOn?_of_prefix (List.prefix_append [c] back)
  | cons d front ih =>
      simp only [List.mem_cons, not_or] at hfront
      have hno : ¬ [c] <+: d :: (front ++ c :: back) := by
        simp [List.cons_prefix_cons, hfront.1]
      rw [List.cons_append, breakOn?_of_not_prefix hno, ih hfront.2]
      rfl

/-- A cut loses nothing. -/
theorem append_of_breakOn? {pattern text before found : List Char}
    (h : breakOn? pattern text = some (before, found)) : before ++ found = text := by
  induction text generalizing before found with
  | nil =>
      simp only [breakOn?] at h
      split at h <;> simp_all
  | cons c rest ih =>
      simp only [breakOn?] at h
      split at h
      · simp_all
      · simp only [Option.map_eq_some_iff, Prod.mk.injEq, Prod.exists] at h
        obtain ⟨front, back, hcut, rfl, rfl⟩ := h
        simp [ih hcut]

/-- The rest after a cut begins with the pattern. -/
theorem isPrefix_of_breakOn? {pattern text before found : List Char}
    (h : breakOn? pattern text = some (before, found)) : pattern <+: found := by
  induction text generalizing before found with
  | nil =>
      simp only [breakOn?] at h
      split at h
      · simp_all
      · simp at h
  | cons c rest ih =>
      simp only [breakOn?] at h
      split at h
      · next hp =>
        simp only [Option.some.injEq, Prod.mk.injEq] at h
        obtain ⟨-, rfl⟩ := h
        exact List.isPrefixOf_iff_prefix.1 hp
      · simp only [Option.map_eq_some_iff, Prod.mk.injEq, Prod.exists] at h
        obtain ⟨front, back, hcut, -, rfl⟩ := h
        exact ih hcut

theorem breakOn?_singleton_of_not_mem {c : Char} {text : List Char} (h : c ∉ text) :
    breakOn? [c] text = none := by
  cases hcut : breakOn? [c] text with
  | none => rfl
  | some cut =>
      obtain ⟨before, found⟩ := cut
      obtain ⟨back, rfl⟩ := isPrefix_of_breakOn? hcut
      have htext := append_of_breakOn? hcut
      exact absurd (htext ▸ by simp) h

/-- A cut is made at the first occurrence: none begins further to the front. -/
theorem length_le_of_breakOn? {pattern text before found front back : List Char}
    (h : breakOn? pattern text = some (before, found)) (htext : front ++ (pattern ++ back) = text) :
    before.length ≤ front.length := by
  induction text generalizing before found front with
  | nil =>
      have hlength := congrArg List.length (append_of_breakOn? h)
      simp only [List.length_append, List.length_nil] at hlength
      omega
  | cons c rest ih =>
      simp only [breakOn?] at h
      split at h
      · simp_all
      · next hno =>
        simp only [Option.map_eq_some_iff, Prod.mk.injEq, Prod.exists] at h
        obtain ⟨more, last, hcut, rfl, -⟩ := h
        cases front with
        | nil => exact absurd (List.isPrefixOf_iff_prefix.2 ⟨back, htext⟩) hno
        | cons d front =>
            simp only [List.cons_append, List.cons.injEq] at htext
            have hle := ih hcut htext.2
            simp only [List.length_cons]
            omega

/-- Where a character that a pattern does not hold ends a text, the pattern ends before it. -/
theorem prefix_append_cons_iff {pattern : List Char} {c : Char} (hc : c ∉ pattern)
    (front back : List Char) :
    pattern <+: front ++ c :: back ↔ pattern <+: front := by
  induction front generalizing pattern with
  | nil =>
      cases pattern with
      | nil => simp
      | cons d more =>
          simp only [List.mem_cons, not_or] at hc
          simp [List.cons_prefix_cons, Ne.symm hc.1]
  | cons d front ih =>
      cases pattern with
      | nil => simp
      | cons e more =>
          simp only [List.mem_cons, not_or] at hc
          simp [List.cons_prefix_cons, ih hc.2]

/-- A pattern lies on one side of a character that it does not hold. -/
theorem infix_append_cons_iff {pattern : List Char} {c : Char} (hc : c ∉ pattern)
    (front back : List Char) :
    pattern <:+: front ++ c :: back ↔ pattern <:+: front ∨ pattern <:+: back := by
  induction front with
  | nil =>
      have hfirst : pattern <+: c :: back ↔ pattern = [] := by
        rw [← List.prefix_nil]
        exact prefix_append_cons_iff hc [] back
      simp only [List.nil_append, List.infix_cons_iff, List.infix_nil, hfirst]
  | cons d front ih =>
      have hfirst := prefix_append_cons_iff hc (d :: front) back
      rw [List.cons_append] at hfirst ⊢
      rw [List.infix_cons_iff, List.infix_cons_iff, hfirst, ih, or_assoc]

end Stencil.Text
