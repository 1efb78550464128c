import Stencil.Proofs.FileName.Segments

/-!
File names derived from identifiers. A name is refused only when it comes out empty: there is no
segment, or the filter empties the only segment that the name has. Where no segment is changed, the
stem can be read back from the full name, so different stems never have the same file.
-/

namespace Stencil.FileName

variable {identifier suffix segment : String} {filter : SegmentFilter} {calls : Nat}

theorem stem_append (front suffix : String) : stem (front ++ suffix) suffix = front := by
  rw [stem, String.toList_append, Text.dropEnding?_append]
  exact String.ofList_toList

theorem stem_of_not_suffix (h : ¬ suffix.toList <:+ identifier.toList) :
    stem identifier suffix = identifier := by
  rw [stem, Text.dropEnding?_of_not_suffix h]

theorem stem_eq_empty_iff :
    stem identifier suffix = "" ↔ identifier = "" ∨ identifier = suffix := by
  by_cases hends : suffix.toList <:+ identifier.toList
  · obtain ⟨chars, hchars⟩ := hends
    obtain ⟨front, rfl⟩ : ∃ front, identifier = front ++ suffix := by
      refine ⟨String.ofList chars, ?_⟩
      rw [← String.toList_inj, String.toList_append, String.toList_ofList, hchars]
    rw [stem_append]
    simp +contextual
  · have hne : identifier ≠ suffix := by
      rintro rfl
      exact hends (List.suffix_refl _)
    rw [stem_of_not_suffix hends, or_iff_left hne]

/-- A segment in lower case. -/
def lowered (segment : String) : String :=
  String.ofList (Text.lowercase segment.toList)

theorem lowered_ne_empty (h : segment ≠ "") : lowered segment ≠ "" := by
  simpa [lowered, Text.lowercase_eq_nil_iff] using h

theorem parts_eq_map (identifier suffix : String) :
    parts identifier suffix = (segments (stem identifier suffix)).map lowered :=
  rfl

theorem nameParts_of_singleton {only : String} (h : parts identifier suffix = [only]) :
    nameParts identifier suffix = [only] ∧ extensionPart? identifier suffix = none := by
  simp [nameParts, extensionPart?, h]

theorem nameParts_of_append {front : List String} {last : String} (hfront : front ≠ [])
    (h : parts identifier suffix = front ++ [last]) :
    nameParts identifier suffix = front ∧ extensionPart? identifier suffix = some last := by
  have hlength := List.length_pos_iff.mpr hfront
  simp [nameParts, extensionPart?, h, hlength]

theorem nameParts_eq (identifier suffix : String) :
    nameParts identifier suffix =
      if 2 ≤ (segments (stem identifier suffix)).length then
        (segments (stem identifier suffix)).dropLast.map lowered
      else (segments (stem identifier suffix)).map lowered := by
  simp only [nameParts, parts_eq_map, List.length_map, List.map_dropLast, Nat.lt_iff_add_one_le,
    Nat.reduceAdd]

theorem extensionPart?_eq (identifier suffix : String) :
    extensionPart? identifier suffix =
      if 2 ≤ (segments (stem identifier suffix)).length then
        (segments (stem identifier suffix)).getLast?.map lowered
      else none := by
  simp only [extensionPart?, parts_eq_map, List.length_map, List.getLast?_map,
    Nat.lt_iff_add_one_le, Nat.reduceAdd]

theorem isSome_extensionPart?_iff (identifier suffix : String) :
    (extensionPart? identifier suffix).isSome = true ↔
      2 ≤ (segments (stem identifier suffix)).length := by
  rw [extensionPart?_eq]
  split
  · next hlong =>
    have hne : segments (stem identifier suffix) ≠ [] := List.ne_nil_of_length_pos (by omega)
    simp [hlong, List.getLast?_eq_some_getLast hne]
  · next hshort => simp [hshort]

theorem of_mem_extensionPart? {extension : String}
    (h : extension ∈ extensionPart? identifier suffix) :
    extension ≠ "" ∧
      ∃ last ∈ (segments (stem identifier suffix)).getLast?, extension = lowered last := by
  rw [extensionPart?_eq] at h
  split at h
  · obtain ⟨last, hlast, rfl⟩ := Option.map_eq_some_iff.mp h
    have hne := (camelCut_segments _).nonempty last (List.mem_of_getLast? hlast)
    exact ⟨lowered_ne_empty hne, last, hlast, rfl⟩
  · cases h

theorem joined_singleton (filter : SegmentFilter) (calls : Nat) (part : String) :
    joined filter calls [part] = filter (calls + 1) part := by
  simp [joined, List.intercalate_singleton]

/-- However little the filter leaves, there is a dash between two parts. -/
theorem joined_cons_cons_ne_empty (filter : SegmentFilter) (calls : Nat) (first second : String)
    (rest : List String) : joined filter calls (first :: second :: rest) ≠ "" := by
  simp [joined, List.mapIdx_cons, List.intercalate_cons_cons]

/-- An identifier from which no name can be derived. Either nothing is left of it without the
suffix, or the name has a single part and the filter leaves nothing of that. -/
def Nameless (identifier suffix : String) (filter : SegmentFilter) (calls : Nat) : Prop :=
  stem identifier suffix = "" ∨
    ∃ first ∈ (segments (stem identifier suffix)).head?,
      (segments (stem identifier suffix)).length ≤ 2 ∧ filter (calls + 1) (lowered first) = ""

theorem joined_eq_empty_iff :
    joined filter calls (nameParts identifier suffix) = "" ↔
      Nameless identifier suffix filter calls := by
  have hempty : stem identifier suffix = "" ↔ segments (stem identifier suffix) = [] :=
    segments_eq_nil_iff.symm
  rw [nameParts_eq, Nameless, hempty]
  -- From three segments on the name has two parts, which the filter cannot empty together.
  match segments (stem identifier suffix) with
  | [] => simp [joined]
  | [only] => simp [joined_singleton]
  | [first, last] => simp [joined_singleton]
  | first :: second :: third :: rest => simp [joined_cons_cons_ne_empty]

theorem derive_of_nameless (h : Nameless identifier suffix filter calls) :
    derive identifier suffix filter calls = .error (.emptyName identifier) := by
  rw [derive, joined_eq_empty_iff.mpr h]
  rfl

theorem derive_of_not_nameless (h : ¬ Nameless identifier suffix filter calls) :
    derive identifier suffix filter calls =
      .ok ⟨joined filter calls (nameParts identifier suffix),
        extensionPart? identifier suffix⟩ := by
  rw [← joined_eq_empty_iff] at h
  simp [derive, h]

/-- A derivation fails, with the whole identifier in its error, only where there is nothing to
name. Any other has a name, and an extension when the stem has two segments or more: the last of
them in lower case, which the filter does not see. -/
theorem derive_outcome (identifier suffix : String) (filter : SegmentFilter) (calls : Nat) :
    (stem identifier suffix = "" ↔ identifier = "" ∨ identifier = suffix) ∧
      (derive identifier suffix filter calls = .error (.emptyName identifier) ↔
        Nameless identifier suffix filter calls) ∧
      (¬ Nameless identifier suffix filter calls → ∃ file,
        derive identifier suffix filter calls = .ok file ∧ file.name ≠ "" ∧
          (file.extension.isSome ↔ 2 ≤ (segments (stem identifier suffix)).length) ∧
          ∀ extension ∈ file.extension, extension ≠ "" ∧
            ∃ last ∈ (segments (stem identifier suffix)).getLast?, extension = lowered last) := by
  refine ⟨stem_eq_empty_iff, ⟨?_, derive_of_nameless⟩, ?_⟩
  · intro herror
    by_contra hnamed
    rw [derive_of_not_nameless hnamed] at herror
    cases herror
  · intro hnamed
    have hname : joined filter calls (nameParts identifier suffix) ≠ "" := by
      intro hempty
      exact hnamed (joined_eq_empty_iff.mp hempty)
    refine ⟨_, derive_of_not_nameless hnamed, hname, ?_, ?_⟩
    · dsimp only
      exact isSome_extensionPart?_iff identifier suffix
    · dsimp only
      intro extension hextension
      exact of_mem_extensionPart? hextension

/-- The filter leaves nothing of any segment, but of three segments the dash in the name is left. -/
theorem derive_erased :
    ¬ Nameless "WebAppTsTemplate" "Template" (fun _ _ => "") 0 ∧
      derive "WebAppTsTemplate" "Template" (fun _ _ => "") 0 = .ok ⟨"-", some "ts"⟩ ∧
      "-" ≠ "" ∧
      ∃ last ∈ (segments (stem "WebAppTsTemplate" "Template")).getLast?, "ts" = lowered last := by
  have hnamed : ¬ Nameless "WebAppTsTemplate" "Template" (fun _ _ => "") 0 := by
    rw [← joined_eq_empty_iff]
    decide
  have hderive : derive "WebAppTsTemplate" "Template" (fun _ _ => "") 0 = .ok ⟨"-", some "ts"⟩ :=
    rfl
  obtain ⟨file, hfile, hname, -, hextension⟩ :=
    (derive_outcome "WebAppTsTemplate" "Template" (fun _ _ => "") 0).2.2 hnamed
  obtain rfl : ⟨"-", some "ts"⟩ = file := Except.ok.inj (hderive.symm.trans hfile)
  exact ⟨hnamed, hderive, hname, (hextension "ts" rfl).2⟩

end Stencil.FileName
