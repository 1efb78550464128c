import Stencil.Proofs.Dedent.Steady
import Stencil.Proofs.Registry.Edit
import Stencil.Proofs.Registry.Segmentation

/-!
Placeholders written one after the other, with nothing between them. The end of one and the begin of
the next can together hold the placeholder of a third key, and when that is longer it wins. So a row
is read as it was written exactly when its keys stand apart. Dedenting knows nothing of
placeholders; what it does to a row is what it does to the marker at both ends of it.
-/

namespace Stencil.Piece

variable {marker text : List Char} {keys requested : List String} {key : String}
  {pieces : List Piece}

/-- The places of values that follow each other directly. -/
def row (requested : List String) : List Piece := requested.map .slot

/-- At no key of a row does the placeholder of a longer key begin. -/
def Apart (marker : List Char) (keys : List String) : List String → Prop
  | [] => True
  | key :: rest =>
    (∀ other ∈ keys, written marker other <+: source marker (row (key :: rest)) →
      other.toList.length ≤ key.toList.length) ∧ Apart marker keys rest

instance decidableApart (marker : List Char) (keys : List String) :
    (requested : List String) → Decidable (Apart marker keys requested)
  | [] => isTrue trivial
  | key :: rest =>
    have := decidableApart marker keys rest
    inferInstanceAs (Decidable ((∀ other ∈ keys,
      written marker other <+: source marker (row (key :: rest)) → _) ∧ _))

theorem slot_mem_row : .slot key ∈ row requested ↔ key ∈ requested := by
  simp [row]

theorem source_row_singleton (marker : List Char) (key : String) :
    source marker (row [key]) = written marker key :=
  List.append_nil _

theorem source_row_cons (marker : List Char) (key : String) (rest : List String) :
    source marker (row (key :: rest)) = written marker key ++ source marker (row rest) := rfl

theorem longest_iff_of_mem (hkey : key ∈ keys) (rest : List Char) :
    Longest marker keys (written marker key ++ rest) key ↔
      ∀ other ∈ keys, written marker other <+: written marker key ++ rest →
        other.toList.length ≤ key.toList.length := by
  constructor
  · intro hlongest other hother hbegins
    by_cases hsame : other = key
    · subst hsame
      exact Nat.le_refl _
    · have hlt := hlongest.2.2 other hother hbegins hsame
      rw [written_length, written_length] at hlt
      omega
  · intro hmax
    apply Longest.of_max hkey (List.prefix_append _ _)
    intro other hother hbegins
    have hle := hmax other hother hbegins
    rw [written_length, written_length]
    omega

theorem reads_slot_iff {rest : List Char} :
    Reads marker keys (written marker key ++ rest) (.slot key :: pieces) ↔
      Longest marker keys (written marker key ++ rest) key ∧ Reads marker keys rest pieces := by
  constructor
  · intro h
    generalize htext : written marker key ++ rest = text at h
    cases h with
    | slot hlongest hrest =>
        rw [List.append_cancel_left_eq] at htext
        rw [htext]
        exact ⟨hlongest, hrest⟩
  · rintro ⟨hlongest, hrest⟩
    exact Reads.slot hlongest hrest

/-- A placeholder does not fit into one character. -/
theorem not_written_prefix_singleton (hmarker : marker ≠ []) (c : Char) :
    ¬ written marker key <+: [c] := by
  intro hbegins
  have hle := hbegins.length_le
  have hpositive := List.length_pos_iff.mpr hmarker
  rw [written_length, List.length_singleton] at hle
  omega

/-- A row with a line feed behind it is read as it was written exactly when its keys stand apart. -/
theorem reads_row_iff (hmarker : marker ≠ []) (hbreak : ∀ key ∈ keys, '\n' ∉ written marker key)
    (hrequested : requested ⊆ keys) :
    Reads marker keys (source marker (row requested) ++ ['\n']) (row requested ++ [.literal '\n']) ↔
      Apart marker keys requested := by
  induction requested with
  | nil =>
      have hread : Reads marker keys ['\n'] [.literal '\n'] :=
        Reads.literal (fun _ _ => not_written_prefix_singleton hmarker '\n') Reads.done
      exact iff_of_true hread trivial
  | cons key rest ih =>
      obtain ⟨hkey, hrest⟩ := List.cons_subset.mp hrequested
      have hrow : source marker (row (key :: rest)) ++ ['\n'] =
          written marker key ++ (source marker (row rest) ++ ['\n']) := by
        rw [source_row_cons, List.append_assoc]
      have hpieces : row (key :: rest) ++ [.literal '\n'] =
          .slot key :: (row rest ++ [.literal '\n']) := rfl
      rw [Apart, ← ih hrest, hrow, hpieces, reads_slot_iff, longest_iff_of_mem hkey, ← hrow]
      refine and_congr_left' (forall₂_congr fun other hother => ?_)
      rw [Text.prefix_append_cons_iff (hbreak other hother)]

/-- A text that is shorter than a placeholder, or as long and different, holds none. -/
theorem reads_of_short (hlength : text.length ≤ (written marker key).length)
    (hne : text ≠ written marker key) : Reads marker [key] text (text.map .literal) := by
  induction text with
  | nil => exact Reads.done
  | cons c rest ih =>
      rw [List.length_cons] at hlength
      have hrest : rest ≠ written marker key := by
        intro heq
        rw [heq] at hlength
        omega
      refine Reads.literal ?_ (ih (by omega) hrest)
      intro other hother hbegins
      obtain rfl := List.mem_singleton.mp hother
      exact hne (hbegins.eq_of_length_le hlength).symm

/-- Where there is one key only, nothing can be in the way of its placeholder. -/
theorem reads_written_append {rest : List Char} (hrest : Reads marker [key] rest pieces) :
    Reads marker [key] (written marker key ++ rest) (.slot key :: pieces) := by
  refine reads_slot_iff.mpr ⟨?_, hrest⟩
  rw [longest_iff_of_mem List.mem_cons_self]
  intro other hother _
  obtain rfl := List.mem_singleton.mp hother
  exact Nat.le_refl _

end Stencil.Piece

namespace Stencil.Dedent

variable {marker front back : List Char} {c : Char}

/-- Blanks at the front of a text end at its first visible character. -/
theorem takeWhile_append_visible (hc : Text.isBlank c = false) (front back : List Char) :
    (front ++ c :: back).takeWhile Text.isBlank = front.takeWhile Text.isBlank := by
  induction front with
  | nil => simp [hc]
  | cons d rest ih =>
      rw [List.cons_append, List.takeWhile_cons, List.takeWhile_cons, ih]

/-- What stands between two markers does not show in what dedenting does to them, as long as it
begins visibly. -/
theorem steady_iff_of_ends {text : List Char} (hmarker : marker ≠ [])
    (hbegins : text = marker ++ c :: back) (hc : Text.isBlank c = false)
    (hends : text = front ++ marker) : Steady text ↔ Steady marker := by
  have hfront : text.takeWhile Text.isBlank = marker.takeWhile Text.isBlank := by
    rw [hbegins, takeWhile_append_visible hc]
  have hlast : text.getLast? = marker.getLast? := by
    rw [hends, List.getLast?_append_of_ne_nil _ hmarker]
  constructor
  · rintro ⟨hends, hbegins⟩
    rw [hlast] at hends
    rw [hfront] at hbegins
    exact ⟨hends, hbegins⟩
  · rintro ⟨hends, hbegins⟩
    rw [← hlast] at hends
    rw [← hfront] at hbegins
    exact ⟨hends, hbegins⟩

theorem steady_row_iff {requested : List String} (hmarker : marker ≠ [])
    (hrequested : requested ≠ []) (hkeys : ∀ key ∈ requested, isIdentifier key = true) :
    Steady (Piece.source marker (Piece.row requested)) ↔ Steady marker := by
  obtain ⟨key, rest, rfl⟩ := List.exists_cons_of_ne_nil hrequested
  have hkey := hkeys key List.mem_cons_self
  obtain ⟨c, more, hchars⟩ := List.exists_cons_of_ne_nil (Registry.key_ne_nil hkey)
  have hc : Text.isBlank c = false := Registry.isBlank_of_mem_key hkey (by simp [hchars])
  have hbegins : Piece.source marker (Piece.row (key :: rest)) =
      marker ++ c :: (more ++ marker ++ Piece.source marker (Piece.row rest)) := by
    rw [Piece.source_row_cons, Piece.written, hchars]
    simp
  have hends : ∃ front, Piece.source marker (Piece.row (key :: rest)) = front ++ marker := by
    obtain hnil | ⟨init, last, hlast⟩ := List.eq_nil_or_concat (key :: rest)
    · cases hnil
    · rw [hlast]
      refine ⟨Piece.source marker (Piece.row init) ++ (marker ++ last.toList), ?_⟩
      simp [Piece.row, Piece.source, Piece.fill, Piece.written]
  obtain ⟨front, hfront⟩ := hends
  exact steady_iff_of_ends hmarker hbegins hc hfront

theorem steady_written_iff {key : String} (hmarker : marker ≠ [])
    (hkey : isIdentifier key = true) :
    Steady (Piece.written marker key) ↔ Steady marker := by
  rw [← Piece.source_row_singleton]
  apply steady_row_iff hmarker (List.cons_ne_nil key [])
  intro other hother
  rwa [List.mem_singleton.mp hother]

end Stencil.Dedent

namespace Stencil.Registry

variable {registry : Registry} {key : String} {requested : List String}

/-- The registry once placeholders were asked for without a transform: the keys have none then. -/
def detach (registry : Registry) (requested : List String) : Registry :=
  { registry with
    entries := requested.foldl (fun entries key => setTransform key none entries) registry.entries }

theorem marker_detach (registry : Registry) (requested : List String) :
    (registry.detach requested).marker = registry.marker := rfl

theorem keys_detach (registry : Registry) (requested : List String) :
    (registry.detach requested).keys = registry.keys := by
  induction requested generalizing registry with
  | nil => rfl
  | cons key rest ih =>
      have hfirst : (registry.detach [key]).keys = registry.keys :=
        map_fst_setTransform key none registry.entries
      exact (ih (registry.detach [key])).trans hfirst

theorem wellFormed_detach (hregistry : registry.WellFormed) (requested : List String) :
    (registry.detach requested).WellFormed where
  marker_ne := hregistry.marker_ne
  nodup := by
    rw [keys_detach]
    exact hregistry.nodup
  identifiers := by
    rw [keys_detach]
    exact hregistry.identifiers

theorem setTransform_none {entries : List (String × Replacer)}
    (hplain : ∀ entry ∈ entries, entry.2.transform = none) :
    setTransform key none entries = entries := by
  induction entries with
  | nil => rfl
  | cons entry rest ih =>
      obtain ⟨name, replacer⟩ := entry
      rw [List.forall_mem_cons] at hplain
      rw [setTransform, ih hplain.2]
      split
      · rw [← hplain.1]
      · rfl

theorem detach_of_plain (hplain : ∀ entry ∈ registry.entries, entry.2.transform = none)
    (requested : List String) : registry.detach requested = registry := by
  unfold detach
  induction requested with
  | nil => rfl
  | cons key rest ih => rw [List.foldl_cons, setTransform_none hplain, ih]

/-- Asking for placeholders of registered keys writes them in a row. -/
theorem runAll_requests (hrequested : requested ⊆ registry.keys) :
    Action.runAll registry (requested.map fun key => .request key .plain) =
      (.ok (String.ofList (Piece.source registry.marker.toList (Piece.row requested))),
        registry.detach requested) := by
  induction requested generalizing registry with
  | nil => rfl
  | cons key rest ih =>
      obtain ⟨hkey, hrest⟩ := List.cons_subset.mp hrequested
      have hrequest : registry.request key .plain =
          .ok (registry.placeholder key, registry.detach [key]) :=
        request_eq_ok_iff.mpr ⟨none, rfl, attach_eq_ok_iff.mpr ⟨hkey, rfl⟩, rfl⟩
      have hmore : rest ⊆ (registry.detach [key]).keys := by
        rw [keys_detach]
        exact hrest
      rw [List.map_cons, Action.runAll_cons_of_ok (Action.run_request_eq_ok_iff.mpr hrequest),
        ih hmore]
      refine Prod.ext ?_ rfl
      rw [Piece.source_row_cons, String.ofList_append, ← toList_placeholder, String.ofList_toList]
      rfl

/-- A row read as it was written gives the texts of its keys one after the other. -/
theorem filled_row (registry : Registry) (requested : List String) :
    String.ofList (registry.filled (Piece.row requested ++ [.literal '\n'])) =
      String.join (requested.map registry.rendered) ++ "\n" := by
  apply String.toList_injective
  simp [filled, Piece.row, Piece.fill, List.flatMap_map, String.toList_join]

end Stencil.Registry
