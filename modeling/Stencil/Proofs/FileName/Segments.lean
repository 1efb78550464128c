import Mathlib.Data.List.SplitBy
import Stencil.FileName

/-!
The segments of an identifier are its only cut in camel case: no segment is empty, together they are
the identifier, a capital begins each of them but the first, and no other capital stands in them.
Capitals are those of ASCII; any other character goes on with its segment, also a capital of another
script.
-/

namespace Stencil

/-- A cut of an identifier before each of its capitals. -/
structure CamelCut (identifier : String) (parts : List String) : Prop where
  nonempty : ∀ part ∈ parts, part ≠ ""
  joined : String.join parts = identifier
  begins : ∀ part ∈ parts.tail, ∃ c ∈ part.toList.head?, c.isUpper = true
  goesOn : ∀ part ∈ parts, ∀ c ∈ part.toList.tail, c.isUpper = false

namespace Text

variable {text : List Char} {words : List (List Char)}

/-- A condition on the next element alone goes for all elements behind the first. -/
theorem isChain_next_iff {α : Type} {p : α → Prop} {items : List α} :
    items.IsChain (fun _ next => p next) ↔ ∀ item ∈ items.tail, p item := by
  induction items with
  | nil => simp
  | cons item rest ih =>
      cases rest with
      | nil => simp
      | cons next more =>
          rw [List.isChain_cons_cons, ih, List.tail_cons, List.tail_cons, List.forall_mem_cons]

/-- The cut of a text before its capitals. No word is empty, so each of them has a character that
begins it. -/
theorem splitBy_capital_iff :
    text.splitBy (fun _ next => !next.isUpper) = words ↔
      [] ∉ words ∧ words.flatten = text ∧
        (∀ word ∈ words.tail, ∃ c ∈ word.head?, c.isUpper = true) ∧
        ∀ word ∈ words, ∀ c ∈ word.tail, c.isUpper = false := by
  have hgoesOn : (∀ word ∈ words, word.IsChain fun _ next => (!next.isUpper) = true) ↔
      ∀ word ∈ words, ∀ c ∈ word.tail, c.isUpper = false := by
    simp only [isChain_next_iff, Bool.not_eq_true']
  have hbegins (hne : [] ∉ words) :
      (words.IsChain fun word next => ∃ (_ : word ≠ []) (hnext : next ≠ []),
          (!(next.head hnext).isUpper) = false) ↔
        ∀ word ∈ words.tail, ∃ c ∈ word.head?, c.isUpper = true := by
    rw [← isChain_next_iff]
    apply List.IsChain.iff_of_mem_imp
    intro word next hword _
    have hwordNe : word ≠ [] := ne_of_mem_of_not_mem hword hne
    cases next with
    | nil => simp
    | cons c rest => simp [hwordNe]
  rw [List.splitBy_eq_iff, hgoesOn]
  constructor
  · rintro ⟨htext, hne, hinside, hchain⟩
    exact ⟨hne, htext.symm, (hbegins hne).mp hchain, hinside⟩
  · rintro ⟨hne, htext, hfirst, hinside⟩
    exact ⟨htext.symm, hne, hinside, (hbegins hne).mpr hfirst⟩

end Text

variable {identifier : String} {parts : List String}

theorem camelCut_iff :
    CamelCut identifier parts ↔
      identifier.toList.splitBy (fun _ next => !next.isUpper) = parts.map String.toList := by
  have hnonempty : [] ∉ parts.map String.toList ↔ ∀ part ∈ parts, part ≠ "" := by
    simp [List.forall_mem_ne']
  have hjoined : (parts.map String.toList).flatten = identifier.toList ↔
      String.join parts = identifier := by
    rw [← List.flatMap_def, ← String.toList_join, String.toList_inj]
  rw [Text.splitBy_capital_iff, hnonempty, hjoined, ← List.map_tail, List.forall_mem_map,
    List.forall_mem_map]
  constructor
  · intro h
    exact ⟨h.nonempty, h.joined, h.begins, h.goesOn⟩
  · rintro ⟨hne, hjoin, hfirst, hinside⟩
    exact ⟨hne, hjoin, hfirst, hinside⟩

theorem map_toList_segments (identifier : String) :
    (segments identifier).map String.toList =
      identifier.toList.splitBy fun _ next => !next.isUpper := by
  simp [segments]

theorem camelCut_segments (identifier : String) : CamelCut identifier (segments identifier) :=
  camelCut_iff.mpr (map_toList_segments identifier).symm

theorem flatMap_segments (identifier : String) :
    (segments identifier).flatMap String.toList = identifier.toList := by
  rw [← String.toList_join, (camelCut_segments identifier).joined]

theorem segments_eq_nil_iff : segments identifier = [] ↔ identifier = "" := by
  simp [segments]

/-- An identifier has one cut in camel case, and its segments are that cut. -/
theorem camelCut_iff_eq_segments (identifier : String) (parts : List String) :
    CamelCut identifier parts ↔ parts = segments identifier := by
  constructor
  · intro h
    have hparts : parts.map String.toList = (segments identifier).map String.toList := by
      rw [map_toList_segments, camelCut_iff.mp h]
    have hinjective : Function.Injective String.toList := fun _ _ => String.toList_inj.mp
    exact hinjective.list_map hparts
  · rintro rfl
    exact camelCut_segments identifier

/-- Two capitals in a row are two segments, and the sharp s and the capital of another script begin
none. -/
example : segments "größeÄHTtp" = ["größeÄ", "H", "Ttp"] := rfl

end Stencil
