import Stencil.Proofs.Instance.Compile
import Stencil.Proofs.Registry.Conformance
import Stencil.Proofs.Registry.Row

/-!
Bodies that write placeholders and nothing else. Two things decide whether they compile to the
values alone. Dedenting comes before the placeholders are looked for, so it has to leave them as
they are, which depends on the marker only. Then each of them has to be read as the one that was
asked for.
-/

namespace Stencil.Instance

variable {inst : Instance} {text other : String} {requested keys : List String}
  {pieces : List Piece}

/-- Compilation succeeds with a text, and that is the compiled text then. -/
def CompilesTo (inst : Instance) (text : String) : Prop :=
  inst.compile.1 = .ok text ∧ inst.compile.2.compiled = text

theorem compilesTo_of_ok (h : inst.compile.1 = .ok text) : inst.CompilesTo text := by
  refine ⟨h, ?_⟩
  rw [compile_snd, h]
  rfl

theorem CompilesTo.unique (h : inst.CompilesTo text) (hother : inst.CompilesTo other) :
    text = other :=
  Except.ok.inj (h.1.symm.trans hother.1)

/-- All that the body does is to ask for the placeholders of registered keys. They stand on the line
behind the first one, with nothing between them. -/
structure Asks (inst : Instance) (requested : List String) : Prop where
  wellFormed : inst.registry.WellFormed
  provided : ∀ declaration ∈ inst.registry.declared, declaration.key ∈ inst.registry.keys
  body_eq : inst.template.body =
    .literal "\n" :: requested.map fun key => .request key .plain
  registered : requested ⊆ inst.registry.keys

theorem Asks.runAll_body (h : inst.Asks requested) :
    Action.runAll inst.registry inst.template.body =
      (.ok ("\n" ++ String.ofList
          (Piece.source inst.registry.marker.toList (Piece.row requested))),
        inst.registry.detach requested) := by
  have hliteral : (Action.literal "\n").run inst.registry = (.ok "\n", inst.registry) := rfl
  rw [h.body_eq, Action.runAll_cons_of_ok hliteral, Registry.runAll_requests h.registered]
  rfl

theorem Asks.compile_registry (h : inst.Asks requested) :
    inst.compile.2.registry = inst.registry.detach requested := by
  have hprovided := Registry.ensureProvided_eq_ok_iff.mpr h.provided
  rw [compile_registry_of_provided hprovided, h.runAll_body]

/-- The dedented row is substituted along its reading. -/
theorem Asks.compilesTo_of_reads (h : inst.Asks requested)
    (hall : inst.compile.2.registry.AllRender)
    (hreads : Piece.Reads inst.registry.marker.toList inst.registry.keys
      (Dedent.format ('\n' :: Piece.source inst.registry.marker.toList (Piece.row requested)))
      pieces) :
    inst.CompilesTo (String.ofList (inst.compile.2.registry.filled pieces)) := by
  rw [h.compile_registry] at hall ⊢
  have hprovided := Registry.ensureProvided_eq_ok_iff.mpr h.provided
  have hmarker := Registry.marker_toList_ne_nil h.wellFormed.marker_ne
  have hnext := Registry.wellFormed_detach h.wellFormed requested
  apply compilesTo_of_ok
  rw [compile_fst_of_provided hprovided, h.runAll_body]
  dsimp only [Except.bind]
  rw [dedent_newline_append, Registry.substitute_eq_ok hnext hall, String.toList_ofList,
    Registry.keys_detach, Registry.marker_detach, hreads.eq_scan hmarker]

/-! Rows under a marker that stands on one line and is kept by dedenting. -/

theorem Asks.format_row (h : inst.Asks requested) (hne : requested ≠ [])
    (hsteady : Dedent.Steady inst.registry.marker.toList) :
    Dedent.format ('\n' :: Piece.source inst.registry.marker.toList (Piece.row requested)) =
      Piece.source inst.registry.marker.toList (Piece.row requested) ++ ['\n'] := by
  have hmarker := Registry.marker_toList_ne_nil h.wellFormed.marker_ne
  have hkeys : ∀ key ∈ requested, isIdentifier key = true := by
    intro key hkey
    exact h.wellFormed.identifiers key (h.registered hkey)
  exact ((Dedent.steady_row_iff hmarker hne hkeys).mpr hsteady).format_eq

/-- Where the keys stand apart, the row compiles to the texts of its keys and a line feed. -/
theorem Asks.compilesTo_rendered (h : inst.Asks requested) (hne : requested ≠ [])
    (hsteady : Dedent.Steady inst.registry.marker.toList)
    (hbreak : '\n' ∉ inst.registry.marker.toList) (hall : inst.compile.2.registry.AllRender)
    (hapart : Piece.Apart inst.registry.marker.toList inst.registry.keys requested) :
    inst.CompilesTo (String.join (requested.map inst.compile.2.registry.rendered) ++ "\n") := by
  have hmarker := Registry.marker_toList_ne_nil h.wellFormed.marker_ne
  have hwritten : ∀ key ∈ inst.registry.keys,
      '\n' ∉ Piece.written inst.registry.marker.toList key := by
    intro key hkey
    exact Piece.newline_not_mem_written hbreak (h.wellFormed.identifiers key hkey)
  have hreads := (Piece.reads_row_iff hmarker hwritten h.registered).mpr hapart
  rw [← h.format_row hne hsteady] at hreads
  rw [← Registry.filled_row]
  exact h.compilesTo_of_reads hall hreads

/-- An instance without declarations whose keys hold texts. -/
def asking (marker : String) (keys requested : List String) (value : String → List Char) :
    Instance where
  template := ⟨"NotesTxt", [], .default,
    .literal "\n" :: requested.map fun key => .request key .plain⟩
  registry := Registry.constants marker keys value
  compiled := ""
  knownName := none
  namingCalls := 0

section

variable {marker : String} {value : String → List Char}

theorem asks_asking (hmarker : marker ≠ "") (hnodup : keys.Nodup)
    (hkeys : ∀ key ∈ keys, isIdentifier key = true) (hrequested : requested ⊆ keys)
    (hvalue : Piece.AllNonempty value) : (asking marker keys requested value).Asks requested where
  wellFormed := (Registry.assigns_constants hmarker hnodup hkeys hvalue).wellFormed
  provided _ hdeclaration := absurd hdeclaration List.not_mem_nil
  body_eq := rfl
  registered := by
    rw [asking, Registry.keys_constants]
    exact hrequested

theorem Asks.registry_asking (h : (asking marker keys requested value).Asks requested) :
    (asking marker keys requested value).compile.2.registry =
      Registry.constants marker keys value := by
  rw [h.compile_registry]
  apply Registry.detach_of_plain
  intro entry hentry
  obtain ⟨key, -, rfl⟩ := List.mem_map.mp hentry
  rfl

theorem Asks.allRender_asking (h : (asking marker keys requested value).Asks requested)
    (hvalue : Piece.AllNonempty value) :
    (asking marker keys requested value).compile.2.registry.AllRender := by
  rw [h.registry_asking]
  exact Registry.allRender_constants hvalue

theorem Asks.compilesTo_asking (h : (asking marker keys requested value).Asks requested)
    (hne : requested ≠ []) (hsteady : Dedent.Steady marker.toList)
    (hvalue : Piece.AllNonempty value)
    (hreads : Piece.Reads marker.toList keys
      (Piece.source marker.toList (Piece.row requested) ++ ['\n']) pieces) :
    (asking marker keys requested value).CompilesTo
      (String.ofList ((Registry.constants marker keys value).filled pieces)) := by
  rw [← h.registry_asking]
  apply h.compilesTo_of_reads (h.allRender_asking hvalue)
  rw [h.format_row hne hsteady, asking, Registry.keys_constants]
  exact hreads

/-- A row that compiles to its values whatever they are is read as it was written: some values would
show any other reading. -/
theorem apart_of_compilesTo (hmarker : marker ≠ "") (hsteady : Dedent.Steady marker.toList)
    (hbreak : '\n' ∉ marker.toList) (hnodup : keys.Nodup)
    (hkeys : ∀ key ∈ keys, isIdentifier key = true) (hrequested : requested ⊆ keys)
    (hne : requested ≠ [])
    (h : ∀ value, Piece.AllNonempty value → (asking marker keys requested value).CompilesTo
      (String.join (requested.map (Registry.constants marker keys value).rendered) ++ "\n")) :
    Piece.Apart marker.toList keys requested := by
  have hchars : marker.toList ≠ [] := by simpa using hmarker
  have hwritten : ∀ key ∈ keys, '\n' ∉ Piece.written marker.toList key := by
    intro key hkey
    exact Piece.newline_not_mem_written hbreak (hkeys key hkey)
  have hreads := Piece.reads_scan hchars keys
    (Piece.source marker.toList (Piece.row requested) ++ ['\n'])
  have hslots : ∀ key, Piece.slot key ∈ Piece.row requested ++ [.literal '\n'] → key ∈ keys := by
    intro key hkey
    rcases List.mem_append.mp hkey with hrow | hlast
    · exact hrequested (Piece.slot_mem_row.mp hrow)
    · simp at hlast
  have hpieces : Piece.scan marker.toList keys
      (Piece.source marker.toList (Piece.row requested) ++ ['\n']) =
        Piece.row requested ++ [.literal '\n'] := by
    apply Piece.eq_of_flatMap_fill_eq
    intro value hvalue
    have hasks := asks_asking hmarker hnodup hkeys hrequested hvalue
    have htext := (hasks.compilesTo_asking hne hsteady hvalue hreads).unique (h value hvalue)
    rw [← Registry.filled_row] at htext
    have hfilled := String.ofList_injective htext
    rwa [Registry.filled_constants hnodup hvalue fun _ => hreads.slot_mem,
      Registry.filled_constants hnodup hvalue hslots] at hfilled
  rw [hpieces] at hreads
  exact (Piece.reads_row_iff hchars hwritten hrequested).mp hreads

end

/-- Under the default marker, asking for placeholders directly one after the other compiles to the
values of their keys, whatever these are, exactly when no longer placeholder begins where one of
theirs does. -/
theorem compile_row_iff (keys requested : List String) (hnodup : keys.Nodup)
    (hkeys : ∀ key ∈ keys, isIdentifier key = true) (hrequested : requested ⊆ keys)
    (hne : requested ≠ []) :
    (∀ inst : Instance, inst.Asks requested → inst.registry.marker = Registry.defaultMarker →
      inst.registry.keys = keys → inst.compile.2.registry.AllRender →
      inst.CompilesTo (String.join (requested.map inst.compile.2.registry.rendered) ++ "\n")) ↔
    Piece.Apart Registry.defaultMarker.toList keys requested := by
  have hsteady : Dedent.Steady Registry.defaultMarker.toList := by decide +kernel
  have hbreak : '\n' ∉ Registry.defaultMarker.toList := by decide
  constructor
  · intro h
    refine apart_of_compilesTo (by decide) hsteady hbreak hnodup hkeys hrequested hne ?_
    intro value hvalue
    have hasks : (asking Registry.defaultMarker keys requested value).Asks requested :=
      asks_asking (by decide) hnodup hkeys hrequested hvalue
    have hcompile := h _ hasks rfl (Registry.keys_constants _ _ _) (hasks.allRender_asking hvalue)
    rwa [hasks.registry_asking] at hcompile
  · rintro hapart inst hasks hmarker rfl hall
    rw [← hmarker] at hsteady hbreak hapart
    exact hasks.compilesTo_rendered hne hsteady hbreak hall hapart

/-- Two keys, one of them the other with a low line behind it. -/
def initials (requested : List String) : Instance :=
  asking Registry.defaultMarker ["a", "a_"] requested fun key =>
    if key = "a" then "short".toList else "long".toList

theorem asks_initials (hrequested : requested ⊆ ["a", "a_"]) :
    (initials requested).Asks requested ∧ (initials requested).compile.2.registry.AllRender := by
  have hvalue : Piece.AllNonempty fun key =>
      if key = "a" then "short".toList else "long".toList := by
    intro key
    dsimp only
    split <;> decide
  have hasks : (initials requested).Asks requested :=
    asks_asking (by decide) (by decide) (by decide) hrequested hvalue
  exact ⟨hasks, hasks.allRender_asking hvalue⟩

theorem compile_initials :
    ["a_", "a"] ⊆ ["a", "a_"] ∧ (initials ["a_", "a"]).CompilesTo "longshort\n" := by
  have hrequested : ["a_", "a"] ⊆ ["a", "a_"] := by decide
  obtain ⟨hasks, hall⟩ := asks_initials hrequested
  have hcompile := (compile_row_iff ["a", "a_"] ["a_", "a"] (by decide) (by decide) hrequested
    (by decide)).mpr (by decide +kernel) (initials ["a_", "a"]) hasks rfl rfl hall
  rw [initials, hasks.registry_asking] at hcompile
  have htext : String.join (["a_", "a"].map (initials ["a_", "a"]).registry.rendered) ++ "\n" =
      "longshort\n" := by decide +kernel
  rw [← htext]
  exact ⟨hrequested, hcompile⟩

/-- The low line that begins the second placeholder completes the placeholder of the longer key. -/
theorem compile_initials_twice :
    (initials ["a", "a"]).Asks ["a", "a"] ∧
      (initials ["a", "a"]).registry.marker = Registry.defaultMarker ∧
      (initials ["a", "a"]).compile.2.registry.AllRender ∧
      String.join (["a", "a"].map (initials ["a", "a"]).compile.2.registry.rendered) ++ "\n" =
        "shortshort\n" ∧
      (initials ["a", "a"]).CompilesTo "long_a__\n" ∧
      ¬ (initials ["a", "a"]).CompilesTo "shortshort\n" := by
  have hrequested : ["a", "a"] ⊆ ["a", "a_"] := by decide
  obtain ⟨hasks, hall⟩ := asks_initials hrequested
  have hregistry : (initials ["a", "a"]).compile.2.registry = (initials ["a", "a"]).registry :=
    hasks.registry_asking
  have hlonger : (initials ["a", "a"]).CompilesTo "long_a__\n" := by
    have hcompile := hasks.compilesTo_of_reads hall (Piece.reads_scan (by decide) _ _)
    rw [hregistry] at hcompile
    have htext : "long_a__\n" = String.ofList ((initials ["a", "a"]).registry.filled
        (Piece.scan "__".toList ["a", "a_"] (Dedent.format "\n__a____a__".toList))) := by
      decide +kernel
    rw [htext]
    exact hcompile
  refine ⟨hasks, rfl, hall, ?_, hlonger, ?_⟩
  · rw [hregistry]
    decide +kernel
  · intro hother
    have hsame := hlonger.unique hother
    revert hsame
    decide

/-! A single placeholder, under any marker. -/

section

variable {marker key value : String}

/-- There is one key, which holds a text, and all that the body does is to ask for it. -/
structure Lone (inst : Instance) (marker key value : String) : Prop extends inst.Asks [key] where
  marker_eq : inst.registry.marker = marker
  pairs_eq : inst.registry.pairs = [(key, .string value)]
  value_ne : value ≠ ""

theorem Lone.keys_eq (h : inst.Lone marker key value) : inst.registry.keys = [key] := by
  rw [Registry.keys_eq_map_pairs, h.pairs_eq]
  rfl

theorem Lone.entries_eq (h : inst.Lone marker key value) :
    inst.compile.2.registry.entries = [(key, ⟨.string value, none⟩)] := by
  have hpairs := h.pairs_eq
  rw [h.compile_registry]
  unfold Registry.pairs at hpairs
  unfold Registry.detach
  obtain ⟨⟨name, replacer⟩, hentries, hpair⟩ := List.map_eq_singleton_iff.mp hpairs
  obtain ⟨rfl, hvalue⟩ := Prod.mk.inj hpair
  rw [hentries]
  simp [Registry.setTransform, hvalue]

theorem Lone.render_eq (h : inst.Lone marker key value) :
    Replacer.render key ⟨.string value, none⟩ = .ok value :=
  Replacer.render_text key h.value_ne

theorem Lone.allRender (h : inst.Lone marker key value) :
    inst.compile.2.registry.AllRender := by
  unfold Registry.AllRender
  rw [h.entries_eq]
  intro entry hentry
  obtain rfl := List.mem_singleton.mp hentry
  exact ⟨value, h.render_eq⟩

theorem Lone.rendered_eq (h : inst.Lone marker key value) :
    inst.compile.2.registry.rendered key = value := by
  have hfound : inst.compile.2.registry.replacer? key = some ⟨.string value, none⟩ := by
    unfold Registry.replacer?
    rw [h.entries_eq]
    simp
  unfold Registry.rendered
  rw [hfound]
  simp [h.render_eq, Except.toOption]

theorem Lone.compilesTo_of_reads (h : inst.Lone marker key value)
    (hreads : Piece.Reads marker.toList [key]
      (Dedent.format ('\n' :: Piece.written marker.toList key)) pieces) :
    inst.CompilesTo (String.ofList (pieces.flatMap (Piece.fill fun _ => value.toList))) := by
  have hfilled : inst.compile.2.registry.filled pieces =
      pieces.flatMap (Piece.fill fun _ => value.toList) := by
    apply Piece.flatMap_fill_congr
    intro other hother
    rw [List.mem_singleton.mp (hreads.slot_mem hother), h.rendered_eq]
  rw [← hfilled]
  apply h.toAsks.compilesTo_of_reads h.allRender
  rw [h.marker_eq, h.keys_eq, Piece.source_row_singleton]
  exact hreads

/-- What a placeholder becomes by dedenting, when it is all there is. -/
def bared (marker key : String) : String := dedent ("\n" ++ (marker ++ key ++ marker))

theorem toList_bared (marker key : String) :
    (bared marker key).toList = Dedent.format ('\n' :: Piece.written marker.toList key) := by
  simp [bared, dedent, Piece.written]

theorem Lone.steady_written_iff (h : inst.Lone marker key value) :
    Dedent.Steady (Piece.written marker.toList key) ↔ Dedent.Steady marker.toList := by
  have hmarker := Registry.marker_toList_ne_nil h.wellFormed.marker_ne
  rw [h.marker_eq] at hmarker
  have hkey : key ∈ inst.registry.keys := by simp [h.keys_eq]
  exact Dedent.steady_written_iff hmarker (h.wellFormed.identifiers key hkey)

theorem Lone.compilesTo_of_steady (h : inst.Lone marker key value)
    (hsteady : Dedent.Steady marker.toList) : inst.CompilesTo (value ++ "\n") := by
  have hmarker := Registry.marker_toList_ne_nil h.wellFormed.marker_ne
  rw [h.marker_eq] at hmarker
  have hend : Piece.Reads marker.toList [key] ['\n'] [.literal '\n'] :=
    Piece.Reads.literal (fun _ _ => Piece.not_written_prefix_singleton hmarker '\n')
      Piece.Reads.done
  have hreads := Piece.reads_written_append hend
  rw [← (h.steady_written_iff.mpr hsteady).format_eq] at hreads
  have hcompile := h.compilesTo_of_reads hreads
  simpa [Piece.fill, String.ofList_append] using hcompile

/-- Under any other marker too there is a text. The placeholder is found only when dedenting has put
back, with the line feed at the end, what it had taken away there. -/
theorem Lone.compilesTo_of_not_steady (h : inst.Lone marker key value)
    (hnot : ¬ Dedent.Steady marker.toList) :
    inst.CompilesTo
      (if bared marker key = marker ++ key ++ marker then value else bared marker key) := by
  have hbared : bared marker key = marker ++ key ++ marker ↔
      Dedent.format ('\n' :: Piece.written marker.toList key) =
        Piece.written marker.toList key := by
    rw [← toList_bared, ← String.toList_inj]
    simp [Piece.written]
  split
  · next hwhole =>
    have hreads : Piece.Reads marker.toList [key] (Piece.written marker.toList key ++ [])
        [.slot key] := Piece.reads_written_append Piece.Reads.done
    rw [List.append_nil, ← hbared.mp hwhole] at hreads
    have hcompile := h.compilesTo_of_reads hreads
    simpa [Piece.fill] using hcompile
  · next hother =>
    have hwritten : ¬ Dedent.Steady (Piece.written marker.toList key) :=
      fun hsteady => hnot (h.steady_written_iff.mp hsteady)
    have hreads := Piece.reads_of_short (Dedent.length_format_le hwritten)
      fun hsame => hother (hbared.mpr hsame)
    have hcompile := h.compilesTo_of_reads hreads
    rwa [Piece.flatMap_fill_literal, ← toList_bared, String.ofList_toList] at hcompile

theorem lone_asking (hmarker : marker ≠ "") (hkey : isIdentifier key = true) (hvalue : value ≠ "") :
    (asking marker [key] [key] fun _ => value.toList).Lone marker key value where
  toAsks := by
    apply asks_asking hmarker (List.nodup_singleton key)
    · intro name hname
      rwa [List.mem_singleton.mp hname]
    · exact List.Subset.refl _
    · intro name
      simpa using hvalue
  marker_eq := rfl
  pairs_eq := by simp [asking, Registry.constants, Registry.pairs]
  value_ne := hvalue

/-- A value as long as the placeholder, with the line feed behind it, is longer than what becomes of
a placeholder that dedenting does not keep. -/
theorem exists_lone_not_compilesTo (hmarker : marker ≠ "") (hkey : isIdentifier key = true)
    (hnot : ¬ Dedent.Steady marker.toList) :
    ∃ (inst : Instance) (value : String), inst.Lone marker key value ∧
      ¬ inst.CompilesTo (value ++ "\n") := by
  have hvalue : marker ++ key ++ marker ≠ "" := by simp [hmarker]
  have hlone := lone_asking hmarker hkey hvalue
  refine ⟨_, _, hlone, ?_⟩
  intro hcompile
  have htext := hcompile.unique (hlone.compilesTo_of_not_steady hnot)
  have hlength := congrArg (fun text => text.toList.length) htext
  have hend : "\n".toList.length = 1 := rfl
  have hwritten : (marker ++ key ++ marker).toList = Piece.written marker.toList key := by
    simp [Piece.written]
  have hbared : (bared marker key).toList.length ≤ (Piece.written marker.toList key).length := by
    rw [toList_bared]
    apply Dedent.length_format_le
    exact fun hsteady => hnot (hlone.steady_written_iff.mp hsteady)
  rw [String.toList_append, hwritten, List.length_append, hend] at hlength
  split at hlength
  · rw [hwritten] at hlength
    omega
  · omega

/-- Asking for one placeholder compiles to the value of its key, whatever it is, exactly under the
markers that dedenting keeps. Under the others too there is a text: the placeholder as dedenting
left it, or the value alone where that is still the placeholder. -/
theorem compile_lone_iff (marker key : String) (hmarker : marker ≠ "")
    (hkey : isIdentifier key = true) :
    ((∀ (inst : Instance) (value : String), inst.Lone marker key value →
        inst.CompilesTo (value ++ "\n")) ↔ Dedent.Steady marker.toList) ∧
      ∀ (inst : Instance) (value : String), inst.Lone marker key value →
        ¬ Dedent.Steady marker.toList → inst.CompilesTo
          (if bared marker key = marker ++ key ++ marker then value else bared marker key) := by
  refine ⟨⟨?_, ?_⟩, ?_⟩
  · intro h
    by_contra hnot
    obtain ⟨inst, value, hlone, hother⟩ := exists_lone_not_compilesTo hmarker hkey hnot
    exact hother (h inst value hlone)
  · intro hsteady inst value hlone
    exact hlone.compilesTo_of_steady hsteady
  · intro inst value hlone hnot
    exact hlone.compilesTo_of_not_steady hnot

end

/-- A marker and one text. -/
def note (marker : String) : Instance := asking marker ["k"] ["k"] fun _ => "v".toList

theorem lone_note {marker : String} (hmarker : marker ≠ "") : (note marker).Lone marker "k" "v" :=
  lone_asking hmarker (by decide) (by decide)

theorem compile_note : "\n%" ≠ "" ∧ (note "\n%").CompilesTo "v\n" := by
  have hmarker : "\n%" ≠ "" := by decide
  have hsteady : Dedent.Steady "\n%".toList := by decide +kernel
  have hcompile := (compile_lone_iff "\n%" "k" hmarker (by decide)).1.mpr hsteady (note "\n%") "v"
    (lone_note hmarker)
  have htext : "v" ++ "\n" = "v\n" := by decide
  rw [htext] at hcompile
  exact ⟨hmarker, hcompile⟩

/-- Dedenting takes the blanks of the marker away, and what is left stands for no value. -/
theorem compile_note_blank :
    (note " ").Lone " " "k" "v" ∧ (note " ").CompilesTo "k\n" ∧
      ¬ (note " ").CompilesTo ("v" ++ "\n") := by
  have hlone : (note " ").Lone " " "k" "v" := lone_note (by decide)
  have hcompile := hlone.compilesTo_of_not_steady (by decide +kernel)
  have hbared : bared " " "k" = "k\n" := by decide +kernel
  have hother : "k\n" ≠ " " ++ "k" ++ " " := by decide
  rw [hbared, if_neg hother] at hcompile
  refine ⟨hlone, hcompile, ?_⟩
  intro hvalue
  have hsame := hcompile.unique hvalue
  revert hsame
  decide

end Stencil.Instance
