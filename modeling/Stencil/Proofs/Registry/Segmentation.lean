import Mathlib.Logic.ExistsUnique
import Stencil.Proofs.Registry.Layout
import Stencil.Proofs.Registry.Substitution

/-!
Values are put in and never looked at. Which parts of a text are replaced is settled by the text,
the marker and the keys: one list of pieces does for all values, all transforms and all orders of
provision. The pieces are even determined by that, since two different lists of pieces can be told
apart by the values of some registry.
-/

namespace Stencil.Piece

variable {marker text : List Char} {keys : List String} {key : String} {pieces : List Piece}

/-- A reading takes the text apart and loses nothing. -/
theorem Reads.source_eq (h : Reads marker keys text pieces) : source marker pieces = text := by
  induction h with
  | done => rfl
  | slot _ _ ih =>
      rw [source, List.flatMap_cons, ← source, ih]
      rfl
  | literal _ _ ih =>
      rw [source, List.flatMap_cons, ← source, ih]
      rfl

/-- One character for every key shows that there is a piece. -/
theorem flatMap_fill_cons_ne_nil (piece : Piece) (rest : List Piece) :
    (piece :: rest).flatMap (fill fun _ => ['a']) ≠ [] := by
  cases piece <;> simp [fill]

/-- A text for each key, none of them empty. -/
def AllNonempty (value : String → List Char) : Prop := ∀ key, value key ≠ []

theorem allNonempty_const (c : Char) : AllNonempty fun _ => [c] := fun _ => List.cons_ne_nil c []

/-- A character other than a literal tells it from a slot. -/
theorem exists_fill_literal_ne_slot (c : Char) (key : String) (rest more : List Piece) :
    ∃ value, AllNonempty value ∧
      (literal c :: rest).flatMap (fill value) ≠ (slot key :: more).flatMap (fill value) := by
  by_cases hc : c = 'a'
  · exact ⟨fun _ => ['b'], allNonempty_const 'b', by simp [fill, hc]⟩
  · exact ⟨fun _ => ['a'], allNonempty_const 'a', by simp [fill, hc]⟩

/-- Two characters tell the slots of different keys apart. -/
theorem exists_fill_slot_ne_slot {name : String} (hname : name ≠ key) (rest more : List Piece) :
    ∃ value, AllNonempty value ∧
      (slot key :: rest).flatMap (fill value) ≠ (slot name :: more).flatMap (fill value) := by
  refine ⟨fun found => if found = key then ['a'] else ['b'], ?_, by simp [fill, hname]⟩
  intro found
  dsimp only
  split <;> exact List.cons_ne_nil _ _

theorem head_eq_of_flatMap_fill_eq {piece second : Piece} {rest more : List Piece}
    (h : ∀ value, AllNonempty value →
      (piece :: rest).flatMap (fill value) = (second :: more).flatMap (fill value)) :
    piece = second := by
  cases piece with
  | literal c =>
      cases second with
      | literal d =>
          have hboth := h _ (allNonempty_const 'a')
          simp only [List.flatMap_cons, fill, List.singleton_append, List.cons.injEq] at hboth
          rw [hboth.1]
      | slot key =>
          obtain ⟨value, hnonempty, hvalue⟩ := exists_fill_literal_ne_slot c key rest more
          exact absurd (h value hnonempty) hvalue
  | slot key =>
      cases second with
      | literal d =>
          obtain ⟨value, hnonempty, hvalue⟩ := exists_fill_literal_ne_slot d key more rest
          exact absurd (h value hnonempty).symm hvalue
      | slot name =>
          by_contra hne
          have hname : name ≠ key := fun heq => hne (by rw [heq])
          obtain ⟨value, hnonempty, hvalue⟩ := exists_fill_slot_ne_slot hname rest more
          exact hvalue (h value hnonempty)

/-- Pieces that fill alike under all values that are not empty are the same pieces. -/
theorem eq_of_flatMap_fill_eq {others : List Piece}
    (h : ∀ value, AllNonempty value → pieces.flatMap (fill value) = others.flatMap (fill value)) :
    pieces = others := by
  induction pieces generalizing others with
  | nil =>
      cases others with
      | nil => rfl
      | cons second more =>
          exact absurd (h _ (allNonempty_const 'a')).symm (flatMap_fill_cons_ne_nil second more)
  | cons piece rest ih =>
      cases others with
      | nil =>
          exact absurd (h _ (allNonempty_const 'a')) (flatMap_fill_cons_ne_nil piece rest)
      | cons second more =>
          obtain rfl := head_eq_of_flatMap_fill_eq h
          have htails (value : String → List Char) (hnonempty : AllNonempty value) :
              rest.flatMap (fill value) = more.flatMap (fill value) := by
            have hboth := h value hnonempty
            rwa [List.flatMap_cons, List.flatMap_cons, List.append_cancel_left_eq] at hboth
          rw [ih htails]

end Stencil.Piece

namespace Stencil.Replacer

/-- A text without a transform stands for itself unless it is empty. -/
theorem render_text {text : String} (key : String) (h : text ≠ "") :
    render key ⟨.string text, none⟩ = .ok text := by
  simp [render, Value.isPresent, h]

end Stencil.Replacer

namespace Stencil.Registry

variable {registry other : Registry} {marker text : String} {keys fewer : List String}
  {pieces : List Piece}

/-- The registry gives a text to each of the keys and to no other. The order in which the keys were
provided and the values and transforms behind the texts are left open. -/
structure Assigns (registry : Registry) (marker : String) (keys : List String) : Prop where
  wellFormed : registry.WellFormed
  marker_eq : registry.marker = marker
  mem_keys : ∀ key, key ∈ registry.keys ↔ key ∈ keys
  allRender : registry.AllRender

/-- The pieces in which a text is replaced, whatever the values. -/
structure Segmentation (marker : String) (keys : List String) (text : String)
    (pieces : List Piece) : Prop where
  /-- The pieces are the text, cut. -/
  source_eq : Piece.source marker.toList pieces = text.toList
  slot_mem : ∀ key, .slot key ∈ pieces → key ∈ keys
  substitute_eq : ∀ registry : Registry, registry.Assigns marker keys →
    registry.substitute text = .ok (String.ofList (registry.filled pieces))
  /-- Keys that do not occur have no influence, neither by their values nor by being there. -/
  indifferent : ∀ (registry other : Registry) (fewer : List String),
    registry.Assigns marker keys → other.Assigns marker fewer → fewer ⊆ keys →
    (∀ key, .slot key ∈ pieces → key ∈ fewer ∧ registry.rendered key = other.rendered key) →
    registry.substitute text = other.substitute text
  /-- A text in which each key stands for its own placeholder comes back as it was. -/
  faithful : ∀ registry : Registry, registry.Assigns marker keys →
    (∀ key ∈ keys, registry.rendered key = registry.placeholder key) →
    registry.substitute text = .ok text

theorem Assigns.substitute_of_reads (h : registry.Assigns marker keys)
    (hreads : Piece.Reads marker.toList keys text.toList pieces) :
    registry.substitute text = .ok (String.ofList (registry.filled pieces)) := by
  have hmarker : registry.marker.toList ≠ [] := marker_toList_ne_nil h.wellFormed.marker_ne
  have hown : Piece.Reads registry.marker.toList registry.keys text.toList pieces := by
    rw [h.marker_eq]
    exact hreads.of_mem_iff fun key => (h.mem_keys key).symm
  rw [substitute_eq_ok h.wellFormed h.allRender, hown.eq_scan hmarker]

theorem filled_congr
    (h : ∀ key, .slot key ∈ pieces → registry.rendered key = other.rendered key) :
    registry.filled pieces = other.filled pieces :=
  Piece.flatMap_fill_congr fun key hkey => by rw [h key hkey]

theorem segmentation_of_reads (hreads : Piece.Reads marker.toList keys text.toList pieces) :
    Segmentation marker keys text pieces where
  source_eq := hreads.source_eq
  slot_mem _ hslot := hreads.slot_mem hslot
  substitute_eq _ hregistry := hregistry.substitute_of_reads hreads
  indifferent registry other fewer hregistry hother hfewer hagree := by
    have hless := hreads.of_occurring hfewer fun key hkey => (hagree key hkey).1
    rw [hregistry.substitute_of_reads hreads, hother.substitute_of_reads hless,
      filled_congr fun key hkey => (hagree key hkey).2]
  faithful registry hregistry hself := by
    have hvalues (key : String) (hkey : .slot key ∈ pieces) :
        (registry.rendered key).toList = Piece.written marker.toList key := by
      rw [hself key (hreads.slot_mem hkey), toList_placeholder, hregistry.marker_eq]
    rw [hregistry.substitute_of_reads hreads, filled, Piece.flatMap_fill_congr hvalues,
      ← Piece.source, hreads.source_eq, String.ofList_toList]

/-- A registry in which each key has a text of its own, without a transform. -/
def constants (marker : String) (keys : List String) (value : String → List Char) : Registry :=
  ⟨marker, [], keys.map fun key => (key, ⟨.string (String.ofList (value key)), none⟩)⟩

theorem keys_constants (marker : String) (keys : List String) (value : String → List Char) :
    (constants marker keys value).keys = keys := by
  simp [constants, Registry.keys, Function.comp_def]

private theorem ofList_ne_empty {chars : List Char} (h : chars ≠ []) :
    String.ofList chars ≠ "" := by
  simpa using h

theorem allRender_constants {value : String → List Char} (hvalue : Piece.AllNonempty value) :
    (constants marker keys value).AllRender := by
  intro entry hentry
  obtain ⟨key, -, rfl⟩ := List.mem_map.mp hentry
  exact ⟨_, Replacer.render_text key (ofList_ne_empty (hvalue key))⟩

theorem assigns_constants {value : String → List Char} (hmarker : marker ≠ "")
    (hnodup : keys.Nodup) (hkeys : ∀ key ∈ keys, isIdentifier key = true)
    (hvalue : Piece.AllNonempty value) : (constants marker keys value).Assigns marker keys where
  wellFormed := by
    refine ⟨hmarker, ?_, ?_⟩
    · rwa [keys_constants]
    · rwa [keys_constants]
  marker_eq := rfl
  mem_keys key := by rw [keys_constants]
  allRender := allRender_constants hvalue

theorem rendered_constants {value : String → List Char} {key : String} (hnodup : keys.Nodup)
    (hvalue : Piece.AllNonempty value) (hkey : key ∈ keys) :
    (constants marker keys value).rendered key = String.ofList (value key) := by
  have hmem : (key, ⟨.string (String.ofList (value key)), none⟩) ∈
      (constants marker keys value).entries := List.mem_map.mpr ⟨key, hkey, rfl⟩
  have hfound := replacer?_of_mem (by rwa [keys_constants]) hmem
  have htext := Replacer.render_text key (ofList_ne_empty (hvalue key))
  rw [rendered, hfound]
  simp only [htext, Except.toOption, Option.getD_some]

theorem filled_constants {value : String → List Char} (hnodup : keys.Nodup)
    (hvalue : Piece.AllNonempty value) (hslots : ∀ key, .slot key ∈ pieces → key ∈ keys) :
    (constants marker keys value).filled pieces = pieces.flatMap (Piece.fill value) := by
  refine Piece.flatMap_fill_congr ?_
  intro key hkey
  rw [rendered_constants hnodup hvalue (hslots key hkey), String.toList_ofList]

theorem Segmentation.unique {others : List Piece} (hmarker : marker ≠ "") (hnodup : keys.Nodup)
    (hkeys : ∀ key ∈ keys, isIdentifier key = true) (hpieces : Segmentation marker keys text pieces)
    (hothers : Segmentation marker keys text others) : pieces = others := by
  refine Piece.eq_of_flatMap_fill_eq ?_
  intro value hvalue
  have hassigns := assigns_constants hmarker hnodup hkeys hvalue
  have hsame := (hpieces.substitute_eq _ hassigns).symm.trans (hothers.substitute_eq _ hassigns)
  have htext := String.ofList_injective (Except.ok.inj hsame)
  rwa [filled_constants hnodup hvalue hpieces.slot_mem,
    filled_constants hnodup hvalue hothers.slot_mem] at htext

/-- Every text has one segmentation for a marker and keys. All registries of these keys substitute
along it: no value, transform or order of provision moves the places that are replaced, and what a
value holds is never replaced again. -/
theorem existsUnique_segmentation (marker text : String) (keys : List String)
    (hmarker : marker ≠ "") (hnodup : keys.Nodup)
    (hkeys : ∀ key ∈ keys, isIdentifier key = true) :
    ∃! pieces, Segmentation marker keys text pieces := by
  have hchars : marker.toList ≠ [] := by simpa using hmarker
  have hreads := Piece.reads_scan hchars keys text.toList
  refine ⟨_, segmentation_of_reads hreads, ?_⟩
  intro others hothers
  exact hothers.unique hmarker hnodup hkeys (segmentation_of_reads hreads)

/-- Keys that stand for their own placeholders, provided in another order than they are listed. -/
def mirror : Registry :=
  ⟨"__", [], [("b", ⟨.string "__b__", none⟩), ("a", ⟨.bool true, some fun _ => "__a__"⟩)]⟩

theorem segmentation_mirror :
    mirror.Assigns "__" ["a", "b"] ∧
      ∃ pieces, Segmentation "__" ["a", "b"] "___a__b____b__" pieces ∧
        mirror.substitute "___a__b____b__" = .ok "___a__b____b__" := by
  have hmirror : mirror.Assigns "__" ["a", "b"] := by
    refine ⟨⟨by decide, by decide, by decide⟩, rfl, ?_, ?_⟩
    · intro key
      simp [mirror, Registry.keys, or_comm]
    · intro entry hentry
      simp only [mirror, List.mem_cons, List.not_mem_nil, or_false] at hentry
      rcases hentry with rfl | rfl
      · exact ⟨"__b__", rfl⟩
      · exact ⟨"__a__", rfl⟩
  obtain ⟨pieces, hpieces, -⟩ := existsUnique_segmentation "__" "___a__b____b__" ["a", "b"]
    (by decide) (by decide) (by decide)
  exact ⟨hmirror, pieces, hpieces, hpieces.faithful mirror hmirror (by decide +kernel)⟩

end Stencil.Registry
