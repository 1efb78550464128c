import Stencil.Instance
import Stencil.Proofs.Dedent.Indentation
import Stencil.Proofs.Registry.Layout
import Stencil.Proofs.Registry.Substitution

/-!
Compilation from end to end. It has three stages that can fail, and the equations for
`Instance.compile` say what it leaves behind in each case. When a body writes lines of literals and
placeholders behind a margin, the three passes over it together come to one thing: every placeholder
is replaced by the value of its key, and nothing else changes.
-/

namespace Stencil.Registry

variable {registry other : Registry} {key : String}

theorem ensureProvided_eq_ok_iff :
    registry.ensureProvided = .ok () ↔
      ∀ declaration ∈ registry.declared, declaration.key ∈ registry.keys := by
  rw [ensureProvided]
  split
  · next declaration hfound =>
    have hmissing := List.find?_some hfound
    simp only [Bool.not_eq_true', not_contains_iff] at hmissing
    simp only [reduceCtorEq, false_iff, not_forall]
    exact ⟨declaration, List.mem_of_find?_eq_some hfound, hmissing⟩
  · next hnone =>
    simp only [true_iff]
    intro declaration hmem
    have hno := List.find?_eq_none.mp hnone declaration hmem
    simpa [contains_iff] using hno

theorem ensureProvided_congr (hdeclared : registry.declared = other.declared)
    (hkeys : ∀ key, key ∈ registry.keys ↔ key ∈ other.keys) :
    registry.ensureProvided = other.ensureProvided := by
  simp only [ensureProvided, hdeclared, contains_congr hkeys]

end Stencil.Registry

namespace Stencil.Instance

variable {inst : Instance} {next : Registry} {raw text : String} {e : TemplateError}

theorem compile_of_missing (hmissing : inst.registry.ensureProvided = .error e) :
    inst.compile = (.error e, inst) := by
  rw [compile, hmissing]

/-- Once the body is run, its text is dedented and substituted. The registry stays as the body left
it in any case, the compiled text is replaced when there is a new one. -/
theorem compile_of_provided {content : Except TemplateError String}
    (hprovided : inst.registry.ensureProvided = .ok ())
    (hbody : Action.runAll inst.registry inst.template.body = (content, next)) :
    inst.compile = (content.bind fun raw => next.substitute (dedent raw), { inst with
      registry := next
      compiled := (content.bind fun raw => next.substitute (dedent raw)).toOption.getD
        inst.compiled }) := by
  cases content with
  | error e => simp only [compile, hprovided, hbody, Except.bind, Except.toOption, Option.getD_none]
  | ok raw =>
      cases hsubstitute : next.substitute (dedent raw) with
      | error e => simp only [compile, hprovided, hbody, hsubstitute, Except.bind,
          Except.toOption, Option.getD_none]
      | ok text => simp only [compile, hprovided, hbody, hsubstitute, Except.bind,
          Except.toOption, Option.getD_some]

theorem compile_of_substitute_ok (hprovided : inst.registry.ensureProvided = .ok ())
    (hbody : Action.runAll inst.registry inst.template.body = (.ok raw, next))
    (hsubstitute : next.substitute (dedent raw) = .ok text) :
    inst.compile = (.ok text, { inst with registry := next, compiled := text }) := by
  rw [compile_of_provided hprovided hbody, Except.bind, hsubstitute]
  rfl

theorem compile_fst_of_provided (hprovided : inst.registry.ensureProvided = .ok ()) :
    inst.compile.1 = (Action.runAll inst.registry inst.template.body).1.bind fun raw =>
      (Action.runAll inst.registry inst.template.body).2.substitute (dedent raw) := by
  rw [compile_of_provided hprovided rfl]

theorem compile_registry_of_provided (hprovided : inst.registry.ensureProvided = .ok ()) :
    inst.compile.2.registry = (Action.runAll inst.registry inst.template.body).2 := by
  rw [compile_of_provided hprovided rfl]

/-- Nothing of an instance changes but its registry and its compiled text. -/
theorem compile_snd (inst : Instance) :
    inst.compile.2 = { inst with
      registry := inst.compile.2.registry
      compiled := inst.compile.1.toOption.getD inst.compiled } := by
  cases hprovided : inst.registry.ensureProvided with
  | error e => rw [compile_of_missing hprovided, Except.toOption, Option.getD_none]
  | ok _ => rw [compile_of_provided hprovided rfl]

end Stencil.Instance

namespace Stencil.Registry

variable {registry : Registry} {lines : List (List Piece)} {first margin : List Char}

/-- The lines of a layout are lines also as they are written. -/
theorem newline_not_mem_source (hregistry : registry.WellFormed)
    (hmarker : '\n' ∉ registry.marker.toList)
    (hlayout : Piece.Layout registry.marker.toList registry.keys lines) :
    ∀ line ∈ lines.map (Piece.source registry.marker.toList), '\n' ∉ line := by
  intro source hsource hmem
  obtain ⟨line, hline, rfl⟩ := List.mem_map.mp hsource
  obtain ⟨piece, hpiece, hfill⟩ := List.mem_flatMap.mp hmem
  cases piece with
  | literal c =>
      obtain rfl := List.mem_singleton.mp hfill
      exact hlayout.oneLine line hline hpiece
  | slot key =>
      have hkey := hregistry.identifiers key (hlayout.slots line hline key hpiece)
      exact Piece.newline_not_mem_written hmarker hkey hfill

/-- The margin in front of the lines goes, and the line before them. -/
theorem format_layout (hregistry : registry.WellFormed)
    (hmarker : '\n' ∉ registry.marker.toList)
    (hlayout : Piece.Layout registry.marker.toList registry.keys lines) (hfirst : '\n' ∉ first)
    (hmargin : ∀ c ∈ margin, Text.isBlank c = true) (hbreak : '\n' ∉ margin) :
    Dedent.format (first ++ '\n' :: Text.joinLines
        (lines.map fun line => margin ++ Piece.source registry.marker.toList line)) =
      Piece.source registry.marker.toList (Piece.joinLines lines ++ [.literal '\n']) := by
  have hlines := newline_not_mem_source hregistry hmarker hlayout
  have hformat := Dedent.format_margin hfirst hmargin hbreak hlines
    (by simpa [List.head?_map] using hlayout.begins)
    (by simpa [List.getLast?_map] using hlayout.ends)
  rw [List.map_map] at hformat
  refine hformat.trans ?_
  rw [Piece.source, List.flatMap_append, Piece.flatMap_joinLines rfl]
  rfl

/-- The pieces of a layout are read back, together with the line feed at the end. -/
theorem scan_layout (hregistry : registry.WellFormed) (hmarker : '\n' ∉ registry.marker.toList)
    (hseparated : ∀ key ∈ registry.keys, Piece.Separated registry.marker.toList key)
    (hlayout : Piece.Layout registry.marker.toList registry.keys lines) :
    Piece.scan registry.marker.toList registry.keys
        (Piece.source registry.marker.toList (Piece.joinLines lines ++ [.literal '\n'])) =
      Piece.joinLines lines ++ [.literal '\n'] := by
  have hne := marker_toList_ne_nil hregistry.marker_ne
  have hslots : ∀ key, Piece.slot key ∈ Piece.joinLines lines ++ [.literal '\n'] →
      key ∈ registry.keys := by
    intro key hkey
    rcases List.mem_append.mp hkey with hin | hlast
    · obtain ⟨line, hline, hslot⟩ := Piece.mem_of_slot_mem_joinLines hin
      exact hlayout.slots line hline key hslot
    · simp at hlast
  have hfree := hlayout.markerFree.append_newline hne hmarker
  exact ((Piece.reads_source hseparated hslots hfree).eq_scan hne).symm

end Stencil.Registry

namespace Stencil.Instance

/-- A body that puts a line `first` in front of lines and a blank `margin` in front of each of them
compiles to the lines with the value of its key in the place of every placeholder, and one line feed
at the end. Values may hold line breaks, markers and whole placeholders. The marker may overlap
itself and begin or end with a blank; it only has to stand on one line and may not begin inside a
literal, and no key may hold a part that reads as a key of its own. -/
theorem compile_layout (inst : Instance) (next : Registry) (raw : String) (first margin : List Char)
    (lines : List (List Piece)) (hregistry : inst.registry.WellFormed)
    (hprovided : ∀ declaration ∈ inst.registry.declared, declaration.key ∈ inst.registry.keys)
    (hbody : Action.runAll inst.registry inst.template.body = (.ok raw, next))
    (hraw : raw.toList = first ++ '\n' :: Text.joinLines
      (lines.map fun line => margin ++ Piece.source inst.registry.marker.toList line))
    (hfirst : '\n' ∉ first) (hmargin : ∀ c ∈ margin, Text.isBlank c = true)
    (hbreak : '\n' ∉ margin) (hmarker : '\n' ∉ inst.registry.marker.toList)
    (hseparated : ∀ key ∈ next.keys, Piece.Separated inst.registry.marker.toList key)
    (hlayout : Piece.Layout inst.registry.marker.toList next.keys lines)
    (hall : next.AllRender) :
    ∃ text, inst.compile = (.ok text, { inst with registry := next, compiled := text }) ∧
      text.toList = Text.joinLines (lines.map next.filled) ++ ['\n'] := by
  have hedits : Registry.Edits inst.registry next := by
    have h := Action.edits_runAll inst.registry inst.template.body
    rwa [hbody] at h
  have hnext := hedits.wellFormed hregistry
  rw [← hedits.marker_eq] at hraw hmarker hseparated hlayout
  have hformat : (dedent raw).toList =
      Piece.source next.marker.toList (Piece.joinLines lines ++ [.literal '\n']) := by
    rw [dedent, String.toList_ofList, hraw,
      Registry.format_layout hnext hmarker hlayout hfirst hmargin hbreak]
  have hsubstitute := Registry.substitute_eq_ok hnext hall (dedent raw)
  rw [hformat, Registry.scan_layout hnext hmarker hseparated hlayout] at hsubstitute
  refine ⟨_, compile_of_substitute_ok (Registry.ensureProvided_eq_ok_iff.mpr hprovided) hbody
    hsubstitute, ?_⟩
  rw [String.toList_ofList, Registry.filled, List.flatMap_append, Piece.flatMap_joinLines rfl]
  rfl

/-- An instance whose marker overlaps itself, and whose values hold a line break and a
placeholder. -/
def assignment : Instance where
  template := ⟨"AssignmentTxt", [], .default, [.literal "dropped\n  x = ", .request "c" .plain,
    .request "d" (.function fun _ => "two"), .literal ";\n    end"]⟩
  registry := ⟨"aba", [], [("c", ⟨.string "1\nabadaba", none⟩), ("d", ⟨.array [], none⟩)]⟩
  compiled := ""
  knownName := none
  namingCalls := 0

theorem compile_assignment :
    assignment.registry.WellFormed ∧
      ∃ next text, assignment.compile = (.ok text, { assignment with
        registry := next, compiled := text }) ∧ text = "x = 1\nabadabatwo;\n  end\n" := by
  have hregistry : assignment.registry.WellFormed := ⟨by decide, by decide, by decide⟩
  let next : Registry := ⟨"aba", [], [("c", ⟨.string "1\nabadaba", none⟩),
    ("d", ⟨.array [], some fun _ => "two"⟩)]⟩
  have hall : next.AllRender := by
    intro entry hentry
    simp only [next, List.mem_cons, List.not_mem_nil, or_false] at hentry
    rcases hentry with rfl | rfl
    · exact ⟨"1\nabadaba", rfl⟩
    · exact ⟨"two", rfl⟩
  let lines : List (List Piece) := ["x = ".toList.map .literal ++ [.slot "c", .slot "d",
    .literal ';'], "  end".toList.map .literal]
  have hlayout : Piece.Layout "aba".toList next.keys lines :=
    ⟨by simp [lines, next, Registry.keys], by decide +kernel, ⟨_, rfl, 'x', rfl, rfl⟩,
      ⟨_, rfl, 'd', rfl, rfl⟩, by decide +kernel⟩
  obtain ⟨text, hcompile, htext⟩ := compile_layout assignment next
    "dropped\n  x = abacabaabadaba;\n    end" "dropped".toList "  ".toList lines hregistry
    (by decide) rfl (by decide +kernel) (by decide) (List.all_eq_true.mp rfl) (by decide)
    (by decide) (by decide +kernel) hlayout hall
  refine ⟨hregistry, next, text, hcompile, ?_⟩
  apply String.toList_injective
  rw [htext]
  decide +kernel

end Stencil.Instance
