import Stencil.Pattern.Written
import Stencil.Proofs.Pattern.Matching

/-!
Which names a written pattern admits. A regular expression admits the names in which it occurs; a
text with exactly one star those that begin and end as it does, with room for both ends; and any
other text itself alone. A text after `regex:` that is no expression is read like any other. All of
this holds for any reader of expressions; with the one of this project an expression occurs where it
matches some part.
-/

namespace Stencil.Pattern

variable {front back text : List Char} {pattern name rest : String} {read : Reader}
  {occursIn : List Char → Bool}

theorem ofText_of_one_star (hfront : '*' ∉ front) (hback : '*' ∉ back) :
    ofText (front ++ '*' :: back) = .glob front back := by
  simp [ofText, Text.breakOn?_singleton_append hfront, hback]

theorem not_mem_of_count_eq_one (h : (front ++ '*' :: back).count '*' = 1) :
    '*' ∉ front ∧ '*' ∉ back := by
  rw [List.count_append, List.count_cons_self] at h
  constructor
  · rw [← List.count_eq_zero]
    omega
  · rw [← List.count_eq_zero]
    omega

theorem ofText_of_count_ne (h : text.count '*' ≠ 1) : ofText text = .literal text := by
  by_cases hstar : '*' ∈ text
  · obtain ⟨front, back, rfl, hfront⟩ := List.eq_append_cons_of_mem hstar
    have hback : '*' ∈ back := by
      by_contra hnone
      apply h
      rw [List.count_append, List.count_cons_self, List.count_eq_zero.mpr hfront,
        List.count_eq_zero.mpr hnone]
    simp [ofText, Text.breakOn?_singleton_append hfront, hback]
  · rw [ofText, Text.breakOn?_singleton_of_not_mem hstar]

/-- A text begins and ends as asked and has room for both when there is something, be it nothing,
between the two. Room is counted in bytes, and only the empty text takes none. -/
theorem exists_between_iff (front back name : String) :
    front.utf8ByteSize + back.utf8ByteSize ≤ name.utf8ByteSize ∧
        front.toList <+: name.toList ∧ back.toList <:+ name.toList ↔
      ∃ middle, name = front ++ middle ++ back := by
  constructor
  · rintro ⟨hroom, ⟨after, hafter⟩, ⟨before, hbefore⟩⟩
    rcases List.append_eq_append_iff.mp (hafter.trans hbefore.symm) with
      ⟨middle, -, hrest⟩ | ⟨overlap, hfront, hback⟩
    · refine ⟨String.ofList middle, ?_⟩
      rw [← String.toList_inj, ← hafter, hrest]
      simp
    · have hname : name = String.ofList before ++ String.ofList overlap ++ String.ofList after := by
        rw [← String.toList_inj, ← hafter, hfront]
        simp
      have hfront' : front = String.ofList before ++ String.ofList overlap := by
        rw [← String.toList_inj, hfront]
        simp
      have hback' : back = String.ofList overlap ++ String.ofList after := by
        rw [← String.toList_inj, hback]
        simp
      have hnone : (String.ofList overlap).utf8ByteSize = 0 := by
        rw [hname, hfront', hback'] at hroom
        simp only [String.utf8ByteSize_append] at hroom
        omega
      rw [String.utf8ByteSize_eq_zero_iff] at hnone
      refine ⟨"", ?_⟩
      rw [hname, hfront', hback', hnone]
      simp
  · rintro ⟨middle, rfl⟩
    refine ⟨?_, ?_, ?_⟩
    · simp only [String.utf8ByteSize_append]
      omega
    · simp
    · rw [String.toList_append]
      exact List.suffix_append _ _

theorem admits_glob_iff :
    (glob front back).admits name = true ↔
      ∃ middle, name = String.ofList front ++ middle ++ String.ofList back := by
  rw [← exists_between_iff]
  simp [admits, and_assoc]

theorem admits_literal_iff : (literal text).admits name = true ↔ name = String.ofList text := by
  rw [admits, decide_eq_true_iff, ← String.toList_inj, String.toList_ofList]

theorem admits_ofText_of_one_star (hpattern : pattern.toList = front ++ '*' :: back)
    (hcount : pattern.toList.count '*' = 1) :
    (ofText pattern.toList).admits name = true ↔
      ∃ middle, name = String.ofList front ++ middle ++ String.ofList back := by
  rw [hpattern] at hcount ⊢
  obtain ⟨hfront, hback⟩ := not_mem_of_count_eq_one hcount
  rw [ofText_of_one_star hfront hback, admits_glob_iff]

/-- A text that is not read as an expression. -/
theorem admits_ofText_iff :
    (ofText pattern.toList).admits name = true ↔
      (pattern.toList.count '*' = 1 ∧
          ∃ front middle back, pattern = front ++ "*" ++ back ∧ name = front ++ middle ++ back) ∨
        (pattern.toList.count '*' ≠ 1 ∧ name = pattern) := by
  by_cases hcount : pattern.toList.count '*' = 1
  · simp only [hcount, true_and, ne_eq, not_true_eq_false, false_and, or_false]
    constructor
    · intro hadmits
      have hstar : '*' ∈ pattern.toList := List.count_pos_iff.mp (by omega)
      obtain ⟨front, back, hpattern⟩ := List.append_of_mem hstar
      obtain ⟨middle, hname⟩ := (admits_ofText_of_one_star hpattern hcount).mp hadmits
      refine ⟨String.ofList front, middle, String.ofList back, ?_, hname⟩
      rw [← String.toList_inj, hpattern]
      simp
    · rintro ⟨front, middle, back, hpattern, hname⟩
      have hsplit : pattern.toList = front.toList ++ '*' :: back.toList := by
        rw [hpattern]
        simp
      refine (admits_ofText_of_one_star hsplit hcount).mpr ⟨middle, ?_⟩
      rwa [String.ofList_toList, String.ofList_toList]
  · rw [ofText_of_count_ne hcount, admits_literal_iff, String.ofList_toList]
    simp [hcount]

theorem ofStringBy_of_expression (hrest : pattern = "regex:" ++ rest)
    (hread : read rest.toList = some occursIn) : ofStringBy read pattern = .regex occursIn := by
  have hbegins : "regex:".toList.isPrefixOf? ("regex:" ++ rest).toList = some rest.toList := by
    rw [List.isPrefixOf?_eq_some_iff_append_eq, String.toList_append]
  rw [hrest, ofStringBy]
  simp only [hbegins, hread]

theorem ofStringBy_of_no_expression
    (h : ∀ rest, pattern = "regex:" ++ rest → read rest.toList = none) :
    ofStringBy read pattern = ofText pattern.toList := by
  rw [ofStringBy]
  split
  · next rest hrest =>
    have hpattern : pattern = "regex:" ++ String.ofList rest := by
      have hchars := List.isPrefixOf?_eq_some_iff_append_eq.mp hrest
      rw [← String.toList_inj, String.toList_append, ← hchars]
      simp
    have hnone := h _ hpattern
    rw [String.toList_ofList] at hnone
    rw [hnone]
  · rfl

/-- Whatever expressions are read, a pattern that holds none admits a name for its one star, which
stands for any text, or else because it is the name. A pattern that holds one leaves everything to
it. -/
theorem admits_ofStringBy_iff (read : Reader) (pattern name : String) :
    ((∀ rest, pattern = "regex:" ++ rest → read rest.toList = none) →
      ((ofStringBy read pattern).admits name = true ↔
        (pattern.toList.count '*' = 1 ∧
            ∃ front middle back, pattern = front ++ "*" ++ back ∧ name = front ++ middle ++ back) ∨
          (pattern.toList.count '*' ≠ 1 ∧ name = pattern))) ∧
    ∀ rest occursIn, pattern = "regex:" ++ rest → read rest.toList = some occursIn →
      (ofStringBy read pattern).admits name = occursIn name.toList := by
  refine ⟨?_, ?_⟩
  · intro hnone
    rw [ofStringBy_of_no_expression hnone, admits_ofText_iff]
  · intro rest occursIn hrest hread
    rw [ofStringBy_of_expression hrest hread, admits]

/-- The group is never closed, so the star is an ordinary one; the other pattern is an expression,
and its plus sign asks for a repetition. -/
theorem admits_unclosed_group :
    (∀ rest, "regex:(a*b" = "regex:" ++ rest → Regex.reader rest.toList = none) ∧
      (ofStringBy Regex.reader "regex:(a*b").admits "regex:(aéb" = true ∧
      ∃ rest occursIn, "regex:o+" = "regex:" ++ rest ∧
        Regex.reader rest.toList = some occursIn ∧
        (ofStringBy Regex.reader "regex:o+").admits "foo" = occursIn "foo".toList ∧
        occursIn "foo".toList = true := by
  have hnone : ∀ rest, "regex:(a*b" = "regex:" ++ rest → Regex.reader rest.toList = none := by
    intro rest hrest
    have hsplit : "regex:" ++ "(a*b" = "regex:" ++ rest := hrest
    rw [← String.toList_inj, String.toList_append, String.toList_append] at hsplit
    obtain rfl : "(a*b" = rest := String.toList_inj.mp (List.append_cancel_left hsplit)
    rw [Regex.reader, Option.map_eq_none_iff]
    decide +kernel
  refine ⟨hnone, ?_, ?_⟩
  · refine ((admits_ofStringBy_iff _ "regex:(a*b" "regex:(aéb").1 hnone).mpr
      (Or.inl ⟨by decide, ?_⟩)
    exact ⟨"regex:(a", "é", "b", rfl, rfl⟩
  · obtain ⟨-, hwhole⟩ := admits_ofStringBy_iff Regex.reader "regex:o+" "foo"
    have hread : Regex.reader "o+".toList =
        some (Regex.repeated (.one (.single 'o')) 1 none).occursIn := rfl
    exact ⟨"o+", _, rfl, hread, hwhole "o+" _ rfl hread, by decide +kernel⟩

/-- With the expressions of this project, a pattern admits the names of which its expression matches
some part. -/
theorem admits_expression_iff {expression : Regex}
    (hread : Regex.read? rest.toList = some expression) :
    (ofStringBy Regex.reader ("regex:" ++ rest)).admits name = true ↔
      ∃ front middle back, name.toList = front ++ (middle ++ back) ∧
        expression.MatchesPart front middle back := by
  have htest : Regex.reader rest.toList = some expression.occursIn := by
    rw [Regex.reader, hread, Option.map_some]
  rw [ofStringBy_of_expression rfl htest, admits, Regex.occursIn_iff]

/-- A name of which a repetition matches some part. -/
theorem matchesPart_repetition :
    ∃ expression, Regex.read? "o+".toList = some expression ∧
      ∃ front middle back, "foo".toList = front ++ (middle ++ back) ∧
        expression.MatchesPart front middle back := by
  have hread : Regex.read? "o+".toList = some (.repeated (.one (.single 'o')) 1 none) := rfl
  exact ⟨_, hread, (admits_expression_iff hread).mp (by decide +kernel)⟩

/-- A name is kept when some included pattern admits it, where there are any, and no excluded one
does. -/
theorem skips_eq_false_iff {included excluded : List Pattern} :
    skips included excluded name = false ↔
      (included = [] ∨ ∃ pattern ∈ included, pattern.admits name = true) ∧
        ∀ pattern ∈ excluded, pattern.admits name = false := by
  rw [skips, Bool.or_eq_false_iff, Bool.and_eq_false_iff, Bool.not_eq_false', Bool.not_eq_false',
    List.isEmpty_iff, List.any_eq_true, List.any_eq_false]
  simp only [Bool.not_eq_true]

end Stencil.Pattern
