import Stencil.Proofs.Registry.Reading
import Stencil.Text.Alphanumeric
import Stencil.Text.Blank
import Stencil.Text.Lines
import Stencil.Text.Search

/-!
Lines written from literals and placeholders, and when they are read back as they were written. Two
things can spoil the reading: a marker that begins in a literal, and a key from whose text together
with the marker behind it another key can be cut. Where both are ruled out, the pieces of the text
are the pieces that it was written from.
-/

namespace Stencil.Registry

variable {key : String}

theorem key_ne_nil (h : isIdentifier key = true) : key.toList ≠ [] := by
  intro hnil
  rw [isIdentifier, hnil] at h
  cases h

theorem isBlank_of_mem_key {c : Char} (h : isIdentifier key = true) (hc : c ∈ key.toList) :
    Text.isBlank c = false := by
  have hchar : c.isAlphanum = true ∨ c = '_' := by
    rw [isIdentifier] at h
    cases hkey : key.toList with
    | nil => simp [hkey] at hc
    | cons first rest =>
        rw [hkey] at h hc
        simp only [Bool.and_eq_true, Bool.or_eq_true, decide_eq_true_eq, List.all_eq_true] at h
        rcases List.mem_cons.mp hc with rfl | hrest
        · exact h.1.imp (fun halpha => by simp [Char.isAlphanum, halpha]) id
        · exact h.2 c hrest
  rcases hchar with halphanum | rfl
  · have hrange := Text.toNat_of_isAlphanum halphanum
    simp only [Text.isBlank, Bool.or_eq_false_iff, Bool.and_eq_false_iff, decide_eq_false_iff_not,
      beq_eq_false_iff_ne]
    omega
  · decide

/-- A key stands on one line. -/
theorem newline_not_mem_key (h : isIdentifier key = true) : '\n' ∉ key.toList := by
  intro hmem
  have hblank := isBlank_of_mem_key h hmem
  cases hblank

end Stencil.Registry

namespace Stencil.Piece

variable {marker : List Char} {keys : List String} {key other : String} {pieces : List Piece}

/-- The text that pieces are written as, with the placeholder in the place of each slot. -/
def source (marker : List Char) (pieces : List Piece) : List Char :=
  pieces.flatMap (fill (written marker))

/-- No occurrence of the marker begins at a literal. -/
def MarkerFree (marker : List Char) : List Piece → Prop
  | [] => True
  | .slot _ :: rest => MarkerFree marker rest
  | .literal c :: rest =>
    ¬ marker <+: source marker (.literal c :: rest) ∧ MarkerFree marker rest

instance decidableMarkerFree (marker : List Char) :
    (pieces : List Piece) → Decidable (MarkerFree marker pieces)
  | [] => isTrue trivial
  | .slot _ :: rest => decidableMarkerFree marker rest
  | .literal c :: rest =>
    have := decidableMarkerFree marker rest
    inferInstanceAs (Decidable (¬ marker <+: source marker (.literal c :: rest) ∧ _))

/-- Behind the key is the first place where the marker begins in the key and the marker. -/
def Separated (marker : List Char) (key : String) : Prop :=
  Text.breakOn? marker (key.toList ++ marker) = some (key.toList, marker)

instance (marker : List Char) (key : String) : Decidable (Separated marker key) :=
  inferInstanceAs (Decidable (_ = _))

/-- Lines put together, with a literal line feed between any two neighbours. -/
def joinLines (lines : List (List Piece)) : List Piece :=
  List.intercalate [.literal '\n'] lines

theorem flatMap_joinLines {f : Piece → List Char} (hf : f (.literal '\n') = ['\n'])
    (lines : List (List Piece)) :
    (joinLines lines).flatMap f = Text.joinLines (lines.map (·.flatMap f)) := by
  induction lines with
  | nil => rfl
  | cons line rest ih =>
      cases rest with
      | nil =>
          rw [joinLines, List.intercalate_singleton]
          rfl
      | cons next more =>
          rw [joinLines, List.intercalate_cons_cons, ← joinLines, List.flatMap_append,
            List.flatMap_append, ih, List.map_cons (l := next :: more),
            Text.joinLines_cons (by simp), List.flatMap_singleton, hf, List.append_assoc,
            List.singleton_append]

theorem mem_of_slot_mem_joinLines {lines : List (List Piece)} (h : .slot key ∈ joinLines lines) :
    ∃ line ∈ lines, .slot key ∈ line := by
  induction lines with
  | nil => simp [joinLines] at h
  | cons line rest ih =>
      cases rest with
      | nil =>
          rw [joinLines, List.intercalate_singleton] at h
          exact ⟨line, by simp, h⟩
      | cons next more =>
          rw [joinLines, List.intercalate_cons_cons, ← joinLines] at h
          simp only [List.mem_append, List.mem_singleton, reduceCtorEq, or_false] at h
          rcases h with hhere | hlater
          · exact ⟨line, by simp, hhere⟩
          · obtain ⟨found, hfound, hslot⟩ := ih hlater
            exact ⟨found, by simp [hfound], hslot⟩

/-- When the marker first occurs behind a key, no shorter key can be read from the key and the
marker. -/
theorem Separated.length_le (hkey : Separated marker key)
    (hbegins : other.toList ++ marker <+: key.toList ++ marker) :
    key.toList.length ≤ other.toList.length := by
  obtain ⟨back, hback⟩ := hbegins
  rw [List.append_assoc] at hback
  exact Text.length_le_of_breakOn? hkey hback

theorem longest_of_separated (hseparated : ∀ key ∈ keys, Separated marker key) (hkey : key ∈ keys)
    (rest : List Char) : Longest marker keys (written marker key ++ rest) key := by
  have hself : written marker key <+: written marker key ++ rest := List.prefix_append _ _
  refine Longest.of_max hkey hself ?_
  intro other hother hbegins
  -- Both keys, with the marker behind them, begin what follows the first marker.
  have hcut (name : String) (h : written marker name <+: written marker key ++ rest) :
      name.toList ++ marker <+: key.toList ++ marker ++ rest := by
    simpa [written, List.append_assoc, List.prefix_append_right_inj] using h
  have hlength : other.toList.length ≤ key.toList.length := by
    rcases List.prefix_or_prefix_of_prefix (hcut other hbegins) (hcut key hself) with h | h
    · have hle := h.length_le
      simp only [List.length_append] at hle
      omega
    · exact (hseparated other hother).length_le h
  rw [written_length, written_length]
  omega

theorem newline_not_mem_written (hmarker : '\n' ∉ marker) (hkey : isIdentifier key = true) :
    '\n' ∉ written marker key := by
  simp only [written, List.mem_append, not_or]
  exact ⟨⟨hmarker, Registry.newline_not_mem_key hkey⟩, hmarker⟩

theorem source_append_newline (marker : List Char) (pieces : List Piece) :
    source marker (pieces ++ [.literal '\n']) = source marker pieces ++ ['\n'] :=
  List.flatMap_append

theorem MarkerFree.append_newline (hmarker : marker ≠ []) (hbreak : '\n' ∉ marker)
    (h : MarkerFree marker pieces) : MarkerFree marker (pieces ++ [.literal '\n']) := by
  have hnot (pieces : List Piece) (hpieces : ¬ marker <+: source marker pieces) :
      ¬ marker <+: source marker (pieces ++ [.literal '\n']) := by
    rwa [source_append_newline, Text.prefix_append_cons_iff hbreak]
  induction pieces with
  | nil => exact ⟨hnot [] (fun hbegins => hmarker (List.prefix_nil.mp hbegins)), trivial⟩
  | cons piece rest ih =>
      cases piece with
      | slot key => exact ih h
      | literal c => exact ⟨hnot (.literal c :: rest) h.1, ih h.2⟩

/-- What separated keys and literals without a marker were written as is read back. -/
theorem reads_source (hseparated : ∀ key ∈ keys, Separated marker key)
    (hslots : ∀ key, .slot key ∈ pieces → key ∈ keys) (hfree : MarkerFree marker pieces) :
    Reads marker keys (source marker pieces) pieces := by
  induction pieces with
  | nil => exact Reads.done
  | cons piece rest ih =>
      have hrest : ∀ key, .slot key ∈ rest → key ∈ keys :=
        fun key hkey => hslots key (List.mem_cons_of_mem _ hkey)
      cases piece with
      | slot key =>
          have hkey := hslots key List.mem_cons_self
          exact Reads.slot (longest_of_separated hseparated hkey _) (ih hrest hfree)
      | literal c =>
          refine Reads.literal ?_ (ih hrest hfree.2)
          intro key _ hbegins
          exact hfree.1 ((marker_prefix_written marker key).trans hbegins)

/-- Lines from which a body can be written so that it compiles to them: their placeholders are of
registered keys, no literal holds a line feed, the first line begins and the last one ends visibly,
and no occurrence of the marker begins at a literal. -/
structure Layout (marker : List Char) (keys : List String) (lines : List (List Piece)) : Prop where
  slots : ∀ line ∈ lines, ∀ key, .slot key ∈ line → key ∈ keys
  oneLine : ∀ line ∈ lines, .literal '\n' ∉ line
  begins : ∃ line ∈ lines.head?, ∃ c ∈ (source marker line).head?, Text.isBlank c = false
  ends : ∃ line ∈ lines.getLast?, ∃ c ∈ (source marker line).getLast?, Text.isBlank c = false
  markerFree : MarkerFree marker (joinLines lines)

end Stencil.Piece
