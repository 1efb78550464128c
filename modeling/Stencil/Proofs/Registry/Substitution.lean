import Stencil.Proofs.Registry.Edit
import Stencil.Proofs.Registry.Reading

/-!
Substitution jumps from one occurrence of the marker to the next and takes the first match from a
list sorted by length. Its result is nevertheless that of a pass over one character after the other,
and with the longest match first this is the plain reading of the text: the pieces of the text, each
slot filled with the rendered value of its key.
-/

namespace Stencil.Replacements

variable {replacements : Replacements} {marker text rest : List Char} {c : Char}
  {entry : List Char × List Char}

/-- The replacement that fits at the front of a text. -/
def first? (replacements : Replacements) (text : List Char) : Option (List Char × List Char) :=
  replacements.find? fun (placeholder, _) => placeholder.isPrefixOf text

theorem prefix_of_first? (h : replacements.first? text = some entry) : entry.1 <+: text := by
  have hfits := List.find?_some h
  exact List.isPrefixOf_iff_prefix.mp hfits

theorem run_of_no_marker (h : Text.breakOn? marker text = none) :
    replacements.run marker text = text := by
  unfold run
  split <;> simp_all

theorem run_nil : replacements.run marker [] = [] := by
  unfold run
  split
  · rfl
  · next before hcut => exact (List.append_eq_nil_iff.mp (Text.append_of_breakOn? hcut)).1
  · next before d after hcut => cases (List.append_eq_nil_iff.mp (Text.append_of_breakOn? hcut)).2

theorem run_of_marker (h : marker <+: c :: rest) :
    replacements.run marker (c :: rest) =
      match replacements.first? (c :: rest) with
      | some (placeholder, value) =>
        value ++ replacements.run marker (rest.drop (placeholder.length - 1))
      | none => c :: replacements.run marker rest := by
  have hcut := Text.breakOn?_of_prefix h
  rw [run]
  split
  · simp_all
  · simp_all
  · next before d after hfound =>
    rw [hcut] at hfound
    simp only [Option.some.injEq, Prod.mk.injEq, List.cons.injEq] at hfound
    obtain ⟨rfl, rfl, rfl⟩ := hfound
    rfl

/-- Nothing is replaced in front of the first marker. -/
theorem run_of_breakOn? {before found : List Char}
    (h : Text.breakOn? marker text = some (before, found)) :
    replacements.run marker text = before ++ replacements.run marker found := by
  have hmarker := Text.isPrefix_of_breakOn? h
  rw [run]
  split
  · simp_all
  · next front hcut =>
    obtain ⟨rfl, rfl⟩ := Prod.mk.inj (Option.some.inj (h.symm.trans hcut))
    rw [run_nil, List.append_nil]
  · next front d after hcut =>
    obtain ⟨rfl, rfl⟩ := Prod.mk.inj (Option.some.inj (h.symm.trans hcut))
    rw [run_of_marker hmarker]
    cases hfirst : replacements.first? (d :: after) with
    | none =>
        unfold first? at hfirst
        rw [hfirst]
    | some entry =>
        unfold first? at hfirst
        rw [hfirst]
        exact List.append_assoc _ _ _

/-- Where no replacement fits the character stays, whether the marker begins there or not. -/
theorem run_cons (h : replacements.first? (c :: rest) = none) :
    replacements.run marker (c :: rest) = c :: replacements.run marker rest := by
  by_cases hmarker : marker <+: c :: rest
  · rw [run_of_marker hmarker, h]
  · have hcut := Text.breakOn?_of_not_prefix hmarker
    cases hrest : Text.breakOn? marker rest with
    | none =>
        rw [hrest] at hcut
        rw [run_of_no_marker hcut, run_of_no_marker hrest]
    | some cut =>
        rw [hrest] at hcut
        rw [run_of_breakOn? hcut, run_of_breakOn? hrest]
        rfl

/-- Where one fits, its text comes in and the pass goes on behind the placeholder. -/
theorem run_of_first? (hmarker : marker ≠ []) (hbegins : marker <+: entry.1)
    (h : replacements.first? text = some entry) :
    replacements.run marker text =
      entry.2 ++ replacements.run marker (text.drop entry.1.length) := by
  have htext : marker <+: text := hbegins.trans (prefix_of_first? h)
  have hpositive : 0 < entry.1.length :=
    Nat.lt_of_lt_of_le (List.length_pos_iff.mpr hmarker) hbegins.length_le
  cases text with
  | nil => exact absurd (List.prefix_nil.mp htext) hmarker
  | cons c rest => rw [run_of_marker htext, h, List.drop_cons hpositive]

theorem run_no_replacements (marker text : List Char) : run [] marker text = text := by
  induction text with
  | nil => exact run_nil
  | cons c rest ih => rw [run_cons rfl, ih]

theorem mem_longestFirst : entry ∈ replacements.longestFirst ↔ entry ∈ replacements :=
  List.mem_mergeSort

theorem pairwise_longestFirst (replacements : Replacements) :
    replacements.longestFirst.Pairwise fun first second =>
      second.1.length ≤ first.1.length := by
  have htrans (a b c : List Char × List Char)
      (hab : decide (b.1.length ≤ a.1.length) = true)
      (hbc : decide (c.1.length ≤ b.1.length) = true) :
      decide (c.1.length ≤ a.1.length) = true := by
    rw [decide_eq_true_eq] at hab hbc ⊢
    omega
  have htotal (a b : List Char × List Char) :
      (decide (b.1.length ≤ a.1.length) || decide (a.1.length ≤ b.1.length)) = true := by
    rw [Bool.or_eq_true, decide_eq_true_eq, decide_eq_true_eq]
    omega
  exact (List.pairwise_mergeSort htrans htotal replacements).imp of_decide_eq_true

/-- The first match in the sorted list is a longest match in the unsorted one. -/
theorem longest_of_first? (hfound : replacements.longestFirst.first? text = some entry) :
    entry ∈ replacements ∧ entry.1 <+: text ∧
      ∀ other ∈ replacements, other.1 <+: text → other.1.length ≤ entry.1.length := by
  obtain ⟨hbegins, before, after, hlist, hbefore⟩ := List.find?_eq_some_iff_append.mp hfound
  refine ⟨?_, List.isPrefixOf_iff_prefix.mp hbegins, ?_⟩
  · rw [← mem_longestFirst, hlist]
    simp
  · intro other hother hotherBegins
    have hmem : other ∈ before ++ entry :: after := by
      rw [← hlist]
      exact mem_longestFirst.mpr hother
    rcases List.mem_append.mp hmem with hearlier | hlater
    · have hno : (!other.1.isPrefixOf text) = true := hbefore other hearlier
      rw [List.isPrefixOf_iff_prefix.mpr hotherBegins] at hno
      simp at hno
    · have hsorted := pairwise_longestFirst replacements
      rw [hlist] at hsorted
      rcases List.mem_cons.mp hlater with rfl | hrest
      · exact Nat.le_refl _
      · exact (List.pairwise_cons.mp (List.pairwise_append.mp hsorted).2.1).1 other hrest

end Stencil.Replacements

namespace Stencil.Piece

variable {marker text : List Char} {keys : List String} {pieces : List Piece}

theorem flatMap_fill_literal (value : String → List Char) (text : List Char) :
    (text.map Piece.literal).flatMap (fill value) = text := by
  rw [List.flatMap_map]
  exact List.flatMap_singleton' text

theorem flatMap_fill_congr {value other : String → List Char}
    (h : ∀ key, .slot key ∈ pieces → value key = other key) :
    pieces.flatMap (fill value) = pieces.flatMap (fill other) := by
  refine List.flatMap_congr ?_
  intro piece hpiece
  cases piece with
  | literal c => rfl
  | slot key => exact h key hpiece

/-- The replacements for keys whose values are known. -/
def replacements (marker : List Char) (value : String → List Char) (keys : List String) :
    Replacements :=
  keys.map fun key => (written marker key, value key)

/-- The sorted search and the search for the longest key agree on what begins a text. -/
theorem first?_replacements (marker : List Char) (value : String → List Char) (keys : List String)
    (text : List Char) :
    (replacements marker value keys).longestFirst.first? text =
      (longestKey? marker keys text).map fun key => (written marker key, value key) := by
  cases hfound : (replacements marker value keys).longestFirst.first? text with
  | none =>
      have hnone : longestKey? marker keys text = none := by
        rw [longestKey?_eq_none_iff]
        intro key hkey hbegins
        have hmem : (written marker key, value key) ∈
            (replacements marker value keys).longestFirst :=
          Replacements.mem_longestFirst.mpr (List.mem_map.mpr ⟨key, hkey, rfl⟩)
        have hno := List.find?_eq_none.mp hfound _ hmem
        exact hno (List.isPrefixOf_iff_prefix.mpr hbegins)
      rw [hnone]
      rfl
  | some entry =>
      obtain ⟨hmem, hbegins, hmax⟩ := Replacements.longest_of_first? hfound
      obtain ⟨key, hkey, rfl⟩ := List.mem_map.mp hmem
      have hlongest : Longest marker keys text key := Longest.of_max hkey hbegins
        fun other hother hotherBegins => hmax _ (List.mem_map.mpr ⟨other, hother, rfl⟩) hotherBegins
      rw [longestKey?_eq_some_iff.mpr hlongest]
      rfl

/-- The pass over a text fills the slots of its reading. -/
theorem Reads.run_eq (hmarker : marker ≠ []) (value : String → List Char)
    (h : Reads marker keys text pieces) :
    (replacements marker value keys).longestFirst.run marker text =
      pieces.flatMap (fill value) := by
  induction h with
  | done => exact Replacements.run_nil
  | @slot key rest pieces hlongest _ ih =>
      have hfirst := first?_replacements marker value keys (written marker key ++ rest)
      rw [longestKey?_eq_some_iff.mpr hlongest, Option.map_some] at hfirst
      rw [Replacements.run_of_first? hmarker (marker_prefix_written marker key) hfirst,
        List.drop_left, ih]
      rfl
  | @literal c rest pieces hnone _ ih =>
      have hfirst := first?_replacements marker value keys (c :: rest)
      rw [longestKey?_eq_none_iff.mpr hnone, Option.map_none] at hfirst
      rw [Replacements.run_cons hfirst, ih]
      rfl

end Stencil.Piece

namespace Stencil.Registry

variable {registry : Registry} {key : String} {replacer : Replacer}

/-- Every value can become text. -/
def AllRender (registry : Registry) : Prop :=
  ∀ entry ∈ registry.entries, ∃ text, entry.2.render entry.1 = .ok text

/-- The text that goes in the place of a key's placeholder; empty where the key has no value or the
value cannot become text. -/
def rendered (registry : Registry) (key : String) : String :=
  match registry.replacer? key with
  | some replacer => (replacer.render key).toOption.getD ""
  | none => ""

theorem toList_placeholder (registry : Registry) (key : String) :
    (registry.placeholder key).toList = Piece.written registry.marker.toList key := by
  simp [placeholder, Piece.written]

theorem marker_toList_ne_nil (h : registry.marker ≠ "") : registry.marker.toList ≠ [] := by
  simpa using h

theorem replacer?_of_mem (hnodup : registry.keys.Nodup)
    (hmem : (key, replacer) ∈ registry.entries) : registry.replacer? key = some replacer := by
  obtain ⟨before, after, hentries⟩ := List.append_of_mem hmem
  rw [replacer?, List.lookup_eq_some_iff]
  refine ⟨before, after, hentries, ?_⟩
  intro entry hentry
  rw [keys, hentries, List.map_append, List.nodup_append] at hnodup
  have hne := hnodup.2.2 entry.1 (List.mem_map.mpr ⟨entry, hentry, rfl⟩) key (by simp)
  simpa using Ne.symm hne

theorem mem_of_replacer? (hfound : registry.replacer? key = some replacer) :
    (key, replacer) ∈ registry.entries := by
  rw [replacer?, List.lookup_eq_some_iff] at hfound
  obtain ⟨before, after, hentries, -⟩ := hfound
  simp [hentries]

theorem render_of_mem (hnodup : registry.keys.Nodup) (hall : registry.AllRender)
    (hmem : (key, replacer) ∈ registry.entries) :
    replacer.render key = .ok (registry.rendered key) := by
  obtain ⟨text, htext⟩ := hall _ hmem
  rw [rendered, replacer?_of_mem hnodup hmem]
  simp only at htext ⊢
  rw [htext]
  rfl

private theorem mapM_eq_ok {α β ε : Type} {f : α → Except ε β} {g : α → β} {items : List α}
    (h : ∀ item ∈ items, f item = .ok (g item)) : items.mapM f = .ok (items.map g) := by
  induction items with
  | nil => rfl
  | cons item rest ih =>
      have hfirst := h item (by simp)
      have hrest := ih fun other hother => h other (by simp [hother])
      simp [List.mapM_cons, hfirst, hrest, bind, Except.bind, pure, Except.pure]

private theorem ok_of_mapM_eq_ok {α β ε : Type} {f : α → Except ε β} {items : List α}
    {results : List β} (h : items.mapM f = .ok results) :
    ∀ item ∈ items, ∃ result, f item = .ok result := by
  induction items generalizing results with
  | nil => simp
  | cons item rest ih =>
      rw [List.mapM_cons] at h
      cases hfirst : f item with
      | error e => simp [hfirst, bind, Except.bind] at h
      | ok result =>
          cases hrest : rest.mapM f with
          | error e => simp [hfirst, hrest, bind, Except.bind] at h
          | ok more =>
              intro other hother
              rcases List.mem_cons.mp hother with rfl | hin
              · exact ⟨result, hfirst⟩
              · exact ih hrest other hin

private theorem mapM_eq_error {α β ε : Type} {f : α → Except ε β} {before after : List α}
    {item : α} {e : ε} (hbefore : ∀ other ∈ before, ∃ result, f other = .ok result)
    (hitem : f item = .error e) : (before ++ item :: after).mapM f = .error e := by
  induction before with
  | nil => simp [List.mapM_cons, hitem, bind, Except.bind]
  | cons first rest ih =>
      obtain ⟨result, hfirst⟩ := hbefore first (by simp)
      have hrest := ih fun other hother => hbefore other (by simp [hother])
      rw [List.cons_append, List.mapM_cons, hfirst, hrest]
      rfl

/-- The texts for the placeholders, in the order of provision. -/
def replacements (registry : Registry) : Replacements :=
  registry.entries.map fun (key, replacer) =>
    (Piece.written registry.marker.toList key, ((replacer.render key).toOption.getD "").toList)

/-- Rendering goes through as a whole, with the placeholders in the order of provision. -/
theorem renderAll_eq_ok (hall : registry.AllRender) :
    registry.renderAll = .ok (registry.entries.map fun (key, replacer) =>
      (registry.placeholder key, (replacer.render key).toOption.getD "")) := by
  refine mapM_eq_ok ?_
  rintro ⟨key, replacer⟩ hmem
  obtain ⟨text, htext⟩ := hall _ hmem
  simp only at htext ⊢
  rw [htext]
  rfl

theorem allRender_of_renderAll {rendered : List (String × String)}
    (h : registry.renderAll = .ok rendered) : registry.AllRender := by
  rintro ⟨key, replacer⟩ hmem
  obtain ⟨result, hresult⟩ := ok_of_mapM_eq_ok h _ hmem
  cases hrender : replacer.render key with
  | error e => simp [hrender, Except.map] at hresult
  | ok text => exact ⟨text, rfl⟩

/-- The text with the value of each slot put in. -/
def filled (registry : Registry) (pieces : List Piece) : List Char :=
  pieces.flatMap (Piece.fill fun key => (registry.rendered key).toList)

/-- Substitution runs over the text with the replacements sorted. Without a replacement nothing is
left to do, and the run changes nothing either. -/
theorem substitute_eq_run (hall : registry.AllRender) (text : String) :
    registry.substitute text = .ok (String.ofList
      (registry.replacements.longestFirst.run registry.marker.toList text.toList)) := by
  rw [substitute, renderAll_eq_ok hall]
  simp only [Except.map, Except.ok.injEq, List.isEmpty_iff, List.map_eq_nil_iff, replacements,
    List.map_map, Function.comp_def, toList_placeholder]
  split
  · next hentries =>
    rw [hentries]
    simp [Replacements.longestFirst, Replacements.run_no_replacements]
  · rfl

theorem replacements_eq (hnodup : registry.keys.Nodup) (hall : registry.AllRender) :
    registry.replacements = Piece.replacements registry.marker.toList
      (fun key => (registry.rendered key).toList) registry.keys := by
  unfold replacements Piece.replacements keys
  rw [List.map_map]
  refine List.map_congr_left ?_
  rintro ⟨key, replacer⟩ hmem
  simp [render_of_mem hnodup hall hmem, Except.toOption]

theorem substitute_eq_ok (hregistry : registry.WellFormed) (hall : registry.AllRender)
    (text : String) :
    registry.substitute text = .ok (String.ofList (registry.filled
      (Piece.scan registry.marker.toList registry.keys text.toList))) := by
  have hmarker := marker_toList_ne_nil hregistry.marker_ne
  have hreads := Piece.reads_scan hmarker registry.keys text.toList
  rw [substitute_eq_run hall, replacements_eq hregistry.nodup hall, hreads.run_eq hmarker]
  rfl

/-- One value that cannot become text makes every substitution fail. -/
theorem substitute_error (hnot : ¬ registry.AllRender) (text : String) :
    ∃ e, registry.substitute text = .error e := by
  rw [substitute]
  cases hrender : registry.renderAll with
  | error e => exact ⟨e, rfl⟩
  | ok rendered => exact absurd (allRender_of_renderAll hrender) hnot

theorem allRender_of_substitute {text result : String} (h : registry.substitute text = .ok result) :
    registry.AllRender := by
  by_contra hnot
  obtain ⟨e, he⟩ := substitute_error hnot text
  rw [he] at h
  cases h

/-- The error is that of the first value in the order of provision that cannot become text. -/
theorem substitute_of_first_fault {before after : List (String × Replacer)} {e : TemplateError}
    (hentries : registry.entries = before ++ (key, replacer) :: after)
    (hbefore : ∀ entry ∈ before, ∃ text, entry.2.render entry.1 = .ok text)
    (hfault : replacer.render key = .error e) (text : String) :
    registry.substitute text = .error e := by
  have hrender : registry.renderAll = .error e := by
    rw [renderAll, hentries]
    refine mapM_eq_error ?_ ?_
    · rintro ⟨name, earlier⟩ hentry
      obtain ⟨found, hfound⟩ := hbefore (name, earlier) hentry
      exact ⟨(registry.placeholder name, found), by simp [hfound, Except.map]⟩
    · simp [hfault, Except.map]
  rw [substitute, hrender]
  rfl

/-- Substitution is the leftmost-longest reading of the text with every slot filled: at each place
the longest placeholder that begins there is replaced as a whole, and a character at which none
begins stays. There is only one such reading. -/
theorem substitute_leftmost_longest (registry : Registry) (hregistry : registry.WellFormed)
    (hall : registry.AllRender) (text : String) :
    (∀ pieces, Piece.Reads registry.marker.toList registry.keys text.toList pieces ↔
      pieces = Piece.scan registry.marker.toList registry.keys text.toList) ∧
    registry.substitute text = .ok (String.ofList (registry.filled
      (Piece.scan registry.marker.toList registry.keys text.toList))) :=
  ⟨fun _ => Piece.reads_iff_eq_scan (marker_toList_ne_nil hregistry.marker_ne),
    substitute_eq_ok hregistry hall text⟩

/-- Two keys of which the placeholder of one can begin where that of the other does. -/
def overlapping : Registry :=
  ⟨"__", [], [("a", ⟨.string "short", none⟩), ("a__b", ⟨.string "long", none⟩)]⟩

theorem substitute_overlapping :
    overlapping.WellFormed ∧ overlapping.AllRender ∧
      overlapping.substitute "___a__ __a__b__ __a__b_" = .ok "_short long shortb_" := by
  have hregistry : overlapping.WellFormed := ⟨by decide, by decide, by decide⟩
  have hall : overlapping.AllRender := by
    intro entry hentry
    simp only [overlapping, List.mem_cons, List.not_mem_nil, or_false] at hentry
    rcases hentry with rfl | rfl
    · exact ⟨"short", rfl⟩
    · exact ⟨"long", rfl⟩
  refine ⟨hregistry, hall, ?_⟩
  rw [(substitute_leftmost_longest overlapping hregistry hall _).2]
  decide +kernel

end Stencil.Registry
