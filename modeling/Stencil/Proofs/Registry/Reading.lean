import Mathlib.Data.List.Induction
import Stencil.Registry.Pieces

/-!
What it means to read a text from left to right with the longest placeholder first. The relation
`Piece.Reads` says it without a scanner: it names no search and no order of the keys. Every text
has exactly one reading, and it is the one that `Piece.scan` gives. A reading depends on which keys
there are and not on their order, so the order in which values were provided cannot show in it.
-/

namespace Stencil.Piece

variable {marker text rest : List Char} {keys : List String} {key other : String}
  {pieces : List Piece}

/-- A key whose placeholder begins a text, where the placeholder of every other key that begins the
text too is shorter. -/
def Longest (marker : List Char) (keys : List String) (text : List Char) (key : String) : Prop :=
  key ∈ keys ∧ written marker key <+: text ∧
    ∀ other ∈ keys, written marker other <+: text → other ≠ key →
      (written marker other).length < (written marker key).length

/-- The readings of a text. Where a placeholder begins, the longest one becomes a slot and is passed
over as a whole; where none does, the next character is a literal. -/
inductive Reads (marker : List Char) (keys : List String) : List Char → List Piece → Prop where
  | done : Reads marker keys [] []
  | slot {key : String} {rest : List Char} {pieces : List Piece} :
      Longest marker keys (written marker key ++ rest) key → Reads marker keys rest pieces →
      Reads marker keys (written marker key ++ rest) (.slot key :: pieces)
  | literal {c : Char} {rest : List Char} {pieces : List Piece} :
      (∀ key ∈ keys, ¬ written marker key <+: c :: rest) → Reads marker keys rest pieces →
      Reads marker keys (c :: rest) (.literal c :: pieces)

theorem written_length (marker : List Char) (key : String) :
    (written marker key).length = 2 * marker.length + key.toList.length := by
  simp only [written, List.length_append]
  omega

theorem marker_prefix_written (marker : List Char) (key : String) :
    marker <+: written marker key := by
  rw [written, List.append_assoc]
  exact List.prefix_append _ _

theorem written_ne_nil (hmarker : marker ≠ []) (key : String) : written marker key ≠ [] := by
  intro hnil
  have hbegins := marker_prefix_written marker key
  rw [hnil, List.prefix_nil] at hbegins
  exact hmarker hbegins

theorem written_injective (h : written marker key = written marker other) : key = other := by
  simp only [written, List.append_cancel_right_eq, List.append_cancel_left_eq] at h
  exact String.toList_injective h

/-- Two placeholders of one length that begin the same text belong to the same key. Longest-first
ties between different keys therefore never meet at one place of a text. -/
theorem key_eq_of_prefixes (hkey : written marker key <+: text)
    (hother : written marker other <+: text)
    (hlength : (written marker key).length = (written marker other).length) : key = other := by
  have hbegins : written marker key <+: written marker other :=
    List.prefix_of_prefix_length_le hkey hother (by omega)
  exact written_injective (hbegins.eq_of_length hlength)

/-- A key is the longest one already when no other is longer. -/
theorem Longest.of_max (hkey : key ∈ keys) (hbegins : written marker key <+: text)
    (hmax : ∀ other ∈ keys, written marker other <+: text →
      (written marker other).length ≤ (written marker key).length) :
    Longest marker keys text key := by
  refine ⟨hkey, hbegins, ?_⟩
  intro other hother hotherBegins hne
  have hle := hmax other hother hotherBegins
  have hlength : (written marker other).length ≠ (written marker key).length :=
    fun heq => hne (key_eq_of_prefixes hotherBegins hbegins heq)
  omega

theorem Longest.unique (hkey : Longest marker keys text key)
    (hother : Longest marker keys text other) : key = other := by
  by_contra hne
  have hlt := hkey.2.2 other hother.1 hother.2.1 (Ne.symm hne)
  have hgt := hother.2.2 key hkey.1 hkey.2.1 hne
  omega

/-- What the search for the longest key has found in the keys that it has seen. -/
private def Best (marker : List Char) (keys : List String) (text : List Char) :
    Option String → Prop
  | none => ∀ key ∈ keys, ¬ written marker key <+: text
  | some best => best ∈ keys ∧ written marker best <+: text ∧
      ∀ key ∈ keys, written marker key <+: text → key.toList.length ≤ best.toList.length

private theorem Best.take {last : String} (hlast : written marker last <+: text)
    (hmax : ∀ key ∈ keys, written marker key <+: text →
      key.toList.length ≤ last.toList.length) :
    Best marker (keys ++ [last]) text (some last) := by
  refine ⟨by simp, hlast, ?_⟩
  intro key hkey hbegins
  rcases List.mem_append.mp hkey with hold | hnew
  · exact hmax key hold hbegins
  · obtain rfl := List.mem_singleton.mp hnew
    exact Nat.le_refl _

private theorem Best.keep {last best : String} (hbest : Best marker keys text (some best))
    (hlast : written marker last <+: text → last.toList.length ≤ best.toList.length) :
    Best marker (keys ++ [last]) text (some best) := by
  obtain ⟨hmem, hbestBegins, hmax⟩ := hbest
  refine ⟨List.mem_append_left _ hmem, hbestBegins, ?_⟩
  intro key hkey hbegins
  rcases List.mem_append.mp hkey with hold | hnew
  · exact hmax key hold hbegins
  · rw [List.mem_singleton.mp hnew] at hbegins ⊢
    exact hlast hbegins

private theorem Best.skip {last : String} (hnone : Best marker keys text none)
    (hlast : ¬ written marker last <+: text) : Best marker (keys ++ [last]) text none := by
  intro key hkey
  rcases List.mem_append.mp hkey with hold | hnew
  · exact hnone key hold
  · rwa [List.mem_singleton.mp hnew]

private theorem longestKey?_append (marker : List Char) (keys : List String) (last : String)
    (text : List Char) :
    longestKey? marker (keys ++ [last]) text =
      if written marker last <+: text then
        some ((longestKey? marker keys text).elim last fun best =>
          if best.toList.length < last.toList.length then last else best)
      else longestKey? marker keys text := by
  rw [longestKey?, List.foldl_append, ← longestKey?]
  by_cases hlast : written marker last <+: text
  · have hyes : (written marker last).isPrefixOf text = true :=
      List.isPrefixOf_iff_prefix.mpr hlast
    cases longestKey? marker keys text with
    | none => simp [hyes, hlast]
    | some best =>
        simp only [List.foldl_cons, List.foldl_nil, hyes, hlast, if_true, Bool.not_true,
          Bool.false_eq_true, if_false, Option.elim_some]
        split <;> rfl
  · have hno : (written marker last).isPrefixOf text = false := by
      rwa [← Bool.not_eq_true, List.isPrefixOf_iff_prefix]
    simp [hno, hlast]

private theorem best_longestKey? (marker : List Char) (keys : List String) (text : List Char) :
    Best marker keys text (longestKey? marker keys text) := by
  induction keys using List.reverseRecOn with
  | nil => simp [longestKey?, Best]
  | append_singleton keys last ih =>
      rw [longestKey?_append]
      split
      · next hlast =>
        cases hbest : longestKey? marker keys text with
        | none =>
            rw [hbest] at ih
            exact Best.take hlast fun key hkey hbegins => absurd hbegins (ih key hkey)
        | some best =>
            rw [hbest] at ih
            rw [Option.elim_some]
            split
            · next hlt =>
              refine Best.take hlast fun key hkey hbegins => ?_
              have hle := ih.2.2 key hkey hbegins
              omega
            · exact ih.keep fun _ => by omega
      · next hlast =>
        cases hbest : longestKey? marker keys text with
        | none =>
            rw [hbest] at ih
            exact ih.skip hlast
        | some best =>
            rw [hbest] at ih
            exact ih.keep fun hbegins => absurd hbegins hlast

theorem longestKey?_eq_none_iff :
    longestKey? marker keys text = none ↔ ∀ key ∈ keys, ¬ written marker key <+: text := by
  have hbest := best_longestKey? marker keys text
  constructor
  · intro hnone
    rwa [hnone] at hbest
  · intro hall
    cases hfound : longestKey? marker keys text with
    | none => rfl
    | some best =>
        rw [hfound] at hbest
        exact absurd hbest.2.1 (hall best hbest.1)

theorem longest_of_longestKey? (hfound : longestKey? marker keys text = some key) :
    Longest marker keys text key := by
  have hbest := best_longestKey? marker keys text
  rw [hfound] at hbest
  obtain ⟨hmem, hbegins, hmax⟩ := hbest
  refine Longest.of_max hmem hbegins ?_
  intro other hother hotherBegins
  have hle := hmax other hother hotherBegins
  rw [written_length, written_length]
  omega

theorem longestKey?_eq_some_iff :
    longestKey? marker keys text = some key ↔ Longest marker keys text key := by
  constructor
  · exact longest_of_longestKey?
  · intro hlongest
    cases hfound : longestKey? marker keys text with
    | none => exact absurd hlongest.2.1 (longestKey?_eq_none_iff.mp hfound key hlongest.1)
    | some best => rw [(longest_of_longestKey? hfound).unique hlongest]

theorem scan_of_none {c : Char} (h : longestKey? marker keys (c :: rest) = none) :
    scan marker keys (c :: rest) = .literal c :: scan marker keys rest := by
  rw [scan, h]

/-- At the longest placeholder the scanner gives a slot and goes on behind the placeholder. -/
theorem scan_of_longest (hmarker : marker ≠ [])
    (h : Longest marker keys (written marker key ++ rest) key) :
    scan marker keys (written marker key ++ rest) = .slot key :: scan marker keys rest := by
  obtain ⟨c, tail, hwritten⟩ := List.exists_cons_of_ne_nil (written_ne_nil hmarker key)
  have hfound := longestKey?_eq_some_iff.mpr h
  rw [hwritten, List.cons_append] at hfound ⊢
  rw [scan, hfound]
  simp [hwritten]

theorem reads_scan (hmarker : marker ≠ []) (keys : List String) (text : List Char) :
    Reads marker keys text (scan marker keys text) := by
  induction hlength : text.length using Nat.strongRecOn generalizing text with
  | _ n ih =>
      subst hlength
      cases text with
      | nil =>
          rw [scan]
          exact Reads.done
      | cons c rest =>
          cases hfound : longestKey? marker keys (c :: rest) with
          | none =>
              rw [scan_of_none hfound]
              exact Reads.literal (longestKey?_eq_none_iff.mp hfound) (ih _ (by simp) rest rfl)
          | some key =>
              have hlongest := longest_of_longestKey? hfound
              obtain ⟨after, hafter⟩ := hlongest.2.1
              rw [← hafter] at hlongest ⊢
              rw [scan_of_longest hmarker hlongest]
              have hpositive := List.length_pos_iff.mpr (written_ne_nil hmarker key)
              have hshorter : after.length < (c :: rest).length := by
                rw [← hafter, List.length_append]
                omega
              exact Reads.slot hlongest (ih _ hshorter after rfl)

/-- A text has one reading. -/
theorem Reads.eq_scan (hmarker : marker ≠ []) (h : Reads marker keys text pieces) :
    pieces = scan marker keys text := by
  induction h with
  | done => rw [scan]
  | slot hlongest _ ih => rw [scan_of_longest hmarker hlongest, ih]
  | literal hnone _ ih => rw [scan_of_none (longestKey?_eq_none_iff.mpr hnone), ih]

theorem reads_iff_eq_scan (hmarker : marker ≠ []) :
    Reads marker keys text pieces ↔ pieces = scan marker keys text := by
  constructor
  · exact Reads.eq_scan hmarker
  · rintro rfl
    exact reads_scan hmarker keys text

theorem Reads.slot_mem (h : Reads marker keys text pieces) (hslot : .slot key ∈ pieces) :
    key ∈ keys := by
  induction h with
  | done => cases hslot
  | slot hlongest _ ih =>
      rcases List.mem_cons.mp hslot with heq | hrest
      · obtain rfl := Piece.slot.inj heq
        exact hlongest.1
      · exact ih hrest
  | literal _ _ ih =>
      rcases List.mem_cons.mp hslot with heq | hrest
      · cases heq
      · exact ih hrest

/-- Keys that do not occur can be left out. -/
theorem Reads.of_occurring {fewer : List String} (h : Reads marker keys text pieces)
    (hfewer : fewer ⊆ keys) (hslots : ∀ key, .slot key ∈ pieces → key ∈ fewer) :
    Reads marker fewer text pieces := by
  induction h with
  | done => exact Reads.done
  | slot hlongest _ ih =>
      have hrest := ih fun key hkey => hslots key (List.mem_cons_of_mem _ hkey)
      refine Reads.slot ⟨hslots _ List.mem_cons_self, hlongest.2.1, ?_⟩ hrest
      intro other hother
      exact hlongest.2.2 other (hfewer hother)
  | literal hnone _ ih =>
      have hrest := ih fun key hkey => hslots key (List.mem_cons_of_mem _ hkey)
      exact Reads.literal (fun key hkey => hnone key (hfewer hkey)) hrest

theorem Reads.of_mem_iff {more : List String} (hmem : ∀ key, key ∈ keys ↔ key ∈ more)
    (h : Reads marker keys text pieces) : Reads marker more text pieces := by
  refine h.of_occurring ?_ ?_
  · intro key hkey
    exact (hmem key).mpr hkey
  · intro key hslot
    exact (hmem key).mp (h.slot_mem hslot)

/-- The order of the keys does not show in the pieces. -/
theorem scan_congr {more : List String} (hmarker : marker ≠ [])
    (hmem : ∀ key, key ∈ keys ↔ key ∈ more) (text : List Char) :
    scan marker keys text = scan marker more text :=
  ((reads_scan hmarker keys text).of_mem_iff hmem).eq_scan hmarker

end Stencil.Piece
