import Stencil.Proofs.Instance.Compile
import Stencil.Proofs.Registry.Provision

/-!
The order of provisions does not show. Two registries that differ in the order of their entries go
through everything that a body can do in step: they answer alike, up to which value a failed
rendering reports, and stay shuffles of each other. Compiling after one order or another therefore
gives one text.
-/

namespace Stencil

variable {registry other : Registry}

theorem map_eq_ok_iff {α β : Type} {outcome : Except TemplateError α} {f : α → β} {result : β} :
    outcome.map f = .ok result ↔ ∃ found, outcome = .ok found ∧ result = f found := by
  cases outcome with
  | error e => simp [Except.map]
  | ok found => simp [Except.map, eq_comm]

/-- Two outcomes that are the same success, or failures both. -/
def Concur {α : Type} (first second : Except TemplateError α) : Prop :=
  ∀ result, first = .ok result ↔ second = .ok result

theorem Concur.of_errors {α : Type} (e f : TemplateError) :
    Concur (.error e : Except TemplateError α) (.error f) := by
  intro result
  simp

theorem Concur.bind {α β : Type} {first second : Except TemplateError α}
    {f g : α → Except TemplateError β} (h : Concur first second)
    (hnext : ∀ result, Concur (f result) (g result)) :
    Concur (first.bind f) (second.bind g) := by
  cases first with
  | ok result =>
      rw [(h result).mp rfl]
      exact hnext result
  | error e =>
      cases second with
      | ok result => cases (h result).mpr rfl
      | error g => exact Concur.of_errors e g

theorem Concur.map {α β : Type} {first second : Except TemplateError α} (h : Concur first second)
    (f : α → β) : Concur (first.map f) (second.map f) :=
  h.bind fun _ _ => Iff.rfl

theorem Concur.toOption_eq {α : Type} {first second : Except TemplateError α}
    (h : Concur first second) : first.toOption = second.toOption := by
  cases first with
  | ok result => rw [(h result).mp rfl]
  | error e =>
      cases second with
      | ok result => cases (h result).mpr rfl
      | error g => rfl

namespace Registry

/-- Registries that differ in nothing but the order of their entries. -/
structure Shuffle (registry other : Registry) : Prop where
  marker : registry.marker = other.marker
  declared : registry.declared = other.declared
  entries : registry.entries.Perm other.entries

theorem Shuffle.keys_perm (h : Shuffle registry other) : registry.keys.Perm other.keys :=
  h.entries.map _

theorem Shuffle.mem_keys (h : Shuffle registry other) (key : String) :
    key ∈ registry.keys ↔ key ∈ other.keys :=
  h.keys_perm.mem_iff

theorem Shuffle.size_eq (h : Shuffle registry other) : registry.size = other.size :=
  h.entries.length_eq

theorem Shuffle.placeholder_eq (h : Shuffle registry other) (key : String) :
    registry.placeholder key = other.placeholder key := by
  rw [placeholder, placeholder, h.marker]

theorem Shuffle.wellFormed (h : Shuffle registry other) (hregistry : registry.WellFormed) :
    other.WellFormed where
  marker_ne := h.marker ▸ hregistry.marker_ne
  nodup := h.keys_perm.nodup_iff.mp hregistry.nodup
  identifiers key hkey := hregistry.identifiers key ((h.mem_keys key).mpr hkey)

theorem Shuffle.allRender_iff (h : Shuffle registry other) :
    registry.AllRender ↔ other.AllRender := by
  constructor
  · exact fun hall entry hentry => hall entry (h.entries.mem_iff.mpr hentry)
  · exact fun hall entry hentry => hall entry (h.entries.mem_iff.mp hentry)

/-- Without repeated keys the first value of a key is the only one. -/
theorem Shuffle.rendered_eq (h : Shuffle registry other) (hregistry : registry.WellFormed)
    (key : String) : registry.rendered key = other.rendered key := by
  have hreplacer : registry.replacer? key = other.replacer? key := by
    cases hfound : registry.replacer? key with
    | some replacer =>
        have hmem : (key, replacer) ∈ registry.entries := mem_of_replacer? hfound
        exact (replacer?_of_mem (h.wellFormed hregistry).nodup (h.entries.mem_iff.mp hmem)).symm
    | none =>
        cases hother : other.replacer? key with
        | none => rfl
        | some replacer =>
            have hmem := h.entries.mem_iff.mpr (mem_of_replacer? hother)
            rw [replacer?_of_mem hregistry.nodup hmem] at hfound
            cases hfound
  rw [rendered, rendered, hreplacer]

/-- Placeholders of different keys never tie at one place of a text, so the order in which they are
tried does not matter. -/
theorem Shuffle.substitute_concur (h : Shuffle registry other) (hregistry : registry.WellFormed)
    (text : String) : Concur (registry.substitute text) (other.substitute text) := by
  by_cases hall : registry.AllRender
  · have hscan := Piece.scan_congr (marker_toList_ne_nil hregistry.marker_ne) h.mem_keys
      text.toList
    have hrendered : registry.rendered = other.rendered := funext (h.rendered_eq hregistry)
    have hsame : registry.substitute text = other.substitute text := by
      rw [substitute_eq_ok hregistry hall,
        substitute_eq_ok (h.wellFormed hregistry) (h.allRender_iff.mp hall), hscan, filled, filled,
        hrendered, h.marker]
    intro result
    rw [hsame]
  · obtain ⟨e, he⟩ := substitute_error hall text
    obtain ⟨f, hf⟩ := substitute_error (fun hother => hall (h.allRender_iff.mpr hother)) text
    rw [he, hf]
    exact Concur.of_errors e f

theorem Shuffle.provide {next : Registry} {key : String} {value : Value}
    (h : Shuffle registry other) (hprovide : registry.provide key value = .ok next) :
    ∃ second, other.provide key value = .ok second ∧ Shuffle next second := by
  obtain ⟨hkey, hadmitted, huntaken, rfl⟩ := provide_eq_ok_iff.mp hprovide
  rw [admits_congr h.declared] at hadmitted
  rw [h.mem_keys] at huntaken
  exact ⟨_, provide_eq_ok_iff.mpr ⟨hkey, hadmitted, huntaken, rfl⟩, h.marker, h.declared,
    h.entries.append_right _⟩

theorem Shuffle.attach {next : Registry} {key : String} {transform : Option (Value → String)}
    (h : Shuffle registry other) (hregistry : registry.WellFormed)
    (hattach : registry.attach key transform = .ok next) :
    ∃ second, other.attach key transform = .ok second ∧ Shuffle next second := by
  obtain ⟨hkey, rfl⟩ := attach_eq_ok_iff.mp hattach
  rw [h.mem_keys] at hkey
  refine ⟨_, attach_eq_ok_iff.mpr ⟨hkey, rfl⟩, h.marker, h.declared, ?_⟩
  rw [setTransform_eq_map hregistry.nodup, setTransform_eq_map (h.wellFormed hregistry).nodup]
  exact h.entries.map _

/-- Both registries refuse a request for the same fault, or both give the same placeholder. -/
theorem Shuffle.request (h : Shuffle registry other) (hregistry : registry.WellFormed)
    (key : String) (choice : TransformChoice) :
    (∃ e, registry.request key choice = .error e ∧ other.request key choice = .error e) ∨
      ∃ text next second, registry.request key choice = .ok (text, next) ∧
        other.request key choice = .ok (text, second) ∧ Shuffle next second := by
  cases hrequest : registry.request key choice with
  | error e => exact Or.inl ⟨e, rfl, request_error_congr h.mem_keys hrequest⟩
  | ok answer =>
      obtain ⟨transform, hchoice, hattach, htext⟩ := request_eq_ok_iff.mp hrequest
      obtain ⟨second, hsecond, hshuffle⟩ := h.attach hregistry hattach
      rw [hshuffle.placeholder_eq] at htext
      exact Or.inr ⟨answer.1, answer.2, second, rfl,
        request_eq_ok_iff.mpr ⟨transform, hchoice, hsecond, htext⟩, hshuffle⟩

end Registry

namespace Action

open Registry (Shuffle)

/-- One action: the answers concur, and the registries stay shuffles of each other. -/
theorem run_shuffle (h : Shuffle registry other) (hregistry : registry.WellFormed)
    (action : Action) :
    Concur (action.run registry).1 (action.run other).1 ∧
      Shuffle (action.run registry).2 (action.run other).2 := by
  cases action with
  | literal text => exact ⟨fun _ => Iff.rfl, h⟩
  | request key choice =>
      rw [run, run]
      rcases h.request hregistry key choice with
        ⟨e, hfirst, hsecond⟩ | ⟨text, next, second, hfirst, hsecond, hshuffle⟩
      · rw [hfirst, hsecond]
        exact ⟨fun _ => Iff.rfl, h⟩
      · rw [hfirst, hsecond]
        exact ⟨fun _ => Iff.rfl, hshuffle⟩
  | attach key choice =>
      rw [run, run]
      rcases h.request hregistry key choice with
        ⟨e, hfirst, hsecond⟩ | ⟨text, next, second, hfirst, hsecond, hshuffle⟩
      · rw [hfirst, hsecond]
        exact ⟨fun _ => Iff.rfl, h⟩
      · rw [hfirst, hsecond]
        exact ⟨fun _ => Iff.rfl, hshuffle⟩
  | placeholder key =>
      rw [run, run, h.placeholder_eq key]
      exact ⟨fun _ => Iff.rfl, h⟩
  | provide key value =>
      rw [run, run]
      cases hprovide : registry.provide key value with
      | error e =>
          rw [Registry.provide_error_congr h.declared h.mem_keys hprovide]
          exact ⟨fun _ => Iff.rfl, h⟩
      | ok next =>
          obtain ⟨second, hsecond, hshuffle⟩ := h.provide hprovide
          rw [hsecond]
          exact ⟨fun _ => Iff.rfl, hshuffle⟩
  | substitute text => exact ⟨h.substitute_concur hregistry text, h⟩
  | size =>
      rw [run, run, h.size_eq]
      exact ⟨fun _ => Iff.rfl, h⟩

/-- A whole body, by induction over its actions. When an action fails in one run it fails in the
other one too, so both runs stop at the same action. -/
theorem runAll_shuffle (h : Shuffle registry other) (hregistry : registry.WellFormed)
    (actions : List Action) :
    Concur (runAll registry actions).1 (runAll other actions).1 ∧
      Shuffle (runAll registry actions).2 (runAll other actions).2 := by
  induction actions generalizing registry other with
  | nil => exact ⟨fun _ => Iff.rfl, h⟩
  | cons action rest ih =>
      obtain ⟨hconcur, hshuffle⟩ := run_shuffle h hregistry action
      have hwellFormed := (edits_run registry action).wellFormed hregistry
      cases hfirst : action.run registry with
      | mk result next =>
          cases hsecond : action.run other with
          | mk otherResult otherNext =>
              rw [hfirst, hsecond] at hconcur hshuffle
              rw [hfirst] at hwellFormed
              obtain ⟨hrest, hlast⟩ := ih hshuffle hwellFormed
              cases result with
              | ok text =>
                  obtain rfl := (hconcur text).mp rfl
                  rw [runAll_cons_of_ok hfirst, runAll_cons_of_ok hsecond]
                  exact ⟨hrest.map (text ++ ·), hlast⟩
              | error e =>
                  cases otherResult with
                  | ok text => cases (hconcur text).mpr rfl
                  | error f =>
                      rw [runAll_cons_of_error hfirst, runAll_cons_of_error hsecond]
                      exact ⟨Concur.of_errors e f, hshuffle⟩

end Action

namespace Instance

open Registry (Shuffle)

/-- Provides values in order, each to the instance that the one before it leaves. -/
def provideAll (inst : Instance) (pairs : List (String × Value)) :
    Except TemplateError Instance :=
  pairs.foldlM (fun inst pair => inst.provide pair.1 pair.2) inst

theorem provideAll_eq_map (inst : Instance) (pairs : List (String × Value)) :
    inst.provideAll pairs =
      (inst.registry.provideAll pairs).map fun registry => { inst with registry := registry } := by
  induction pairs generalizing inst with
  | nil => rfl
  | cons pair rest ih =>
      have hcons : inst.provideAll (pair :: rest) =
          (inst.provide pair.1 pair.2).bind fun next => next.provideAll rest := rfl
      rw [hcons, Registry.provideAll_cons, provide]
      cases inst.registry.provide pair.1 pair.2 with
      | error e => rfl
      | ok next => exact ih { inst with registry := next }

theorem provideAll_eq_ok_iff {inst last : Instance} {pairs : List (String × Value)} :
    inst.provideAll pairs = .ok last ↔ ∃ registry, inst.registry.provideAll pairs = .ok registry ∧
      last = { inst with registry := registry } := by
  rw [provideAll_eq_map, map_eq_ok_iff]

/-- Compiling two instances of one template whose registries are shuffles of each other. -/
theorem compile_shuffle {inst twin : Instance} (htemplate : twin.template = inst.template)
    (hcompiled : twin.compiled = inst.compiled) (h : Shuffle inst.registry twin.registry)
    (hregistry : inst.registry.WellFormed) :
    Concur inst.compile.1 twin.compile.1 ∧ inst.compile.2.compiled = twin.compile.2.compiled ∧
      Shuffle inst.compile.2.registry twin.compile.2.registry := by
  have hprovided := Registry.ensureProvided_congr h.declared h.mem_keys
  cases hensure : inst.registry.ensureProvided with
  | error e =>
      rw [compile_of_missing hensure, compile_of_missing (hprovided ▸ hensure)]
      exact ⟨fun _ => Iff.rfl, hcompiled.symm, h⟩
  | ok _ =>
      have htwin : twin.registry.ensureProvided = .ok () := hprovided ▸ hensure
      obtain ⟨hcontent, hshuffle⟩ := Action.runAll_shuffle h hregistry inst.template.body
      have hnext := (Action.edits_runAll inst.registry inst.template.body).wellFormed hregistry
      have hconcur : Concur inst.compile.1 twin.compile.1 := by
        rw [compile_fst_of_provided hensure, compile_fst_of_provided htwin, htemplate]
        exact hcontent.bind fun raw => hshuffle.substitute_concur hnext (dedent raw)
      refine ⟨hconcur, ?_, ?_⟩
      · rw [compile_snd inst, compile_snd twin, hconcur.toOption_eq, hcompiled]
      · rw [compile_registry_of_provided hensure, compile_registry_of_provided htwin, htemplate]
        exact hshuffle

theorem withMarker_new_eq_ok_iff {template : Template} {marker : String} {start : Instance} :
    (new template).withMarker marker = .ok start ↔ marker ≠ "" ∧
      start = { new template with registry := Registry.new marker template.declared } := by
  rw [withMarker, map_eq_ok_iff]
  constructor
  · rintro ⟨registry, hregistry, rfl⟩
    obtain ⟨hmarker, rfl⟩ := Registry.withMarker_eq_ok_iff.mp hregistry
    exact ⟨hmarker, rfl⟩
  · rintro ⟨hmarker, rfl⟩
    exact ⟨_, Registry.withMarker_eq_ok_iff.mpr ⟨hmarker, rfl⟩, rfl⟩

/-- From a fresh instance, values that can be provided in one order can be provided in every other
order. The orders compile alike, whatever the body does with the registry: to the same text, or to
a failure in every order, and the registries that are left differ in the order of their entries
only. -/
theorem compile_provision_order (template : Template) (marker : String) (start first : Instance)
    (pairs others : List (String × Value))
    (hstart : (new template).withMarker marker = .ok start) (hperm : pairs.Perm others)
    (hfirst : start.provideAll pairs = .ok first) :
    ∃ second, start.provideAll others = .ok second ∧
      Concur first.compile.1 second.compile.1 ∧
      first.compile.2.compiled = second.compile.2.compiled ∧
      Shuffle first.compile.2.registry second.compile.2.registry := by
  obtain ⟨hmarker, rfl⟩ := withMarker_new_eq_ok_iff.mp hstart
  obtain ⟨registry, hregistry, rfl⟩ := provideAll_eq_ok_iff.mp hfirst
  have hwellFormed := (Registry.edits_provideAll hregistry).wellFormed
    (Registry.wellFormed_new hmarker template.declared)
  obtain ⟨hacceptable, rfl⟩ := Registry.provideAll_eq_ok_iff.mp hregistry
  have hsecond := Registry.provideAll_eq_ok_iff.mpr ⟨hacceptable.perm hperm, rfl⟩
  refine ⟨_, provideAll_eq_ok_iff.mpr ⟨_, hsecond, rfl⟩, compile_shuffle rfl rfl ?_ hwellFormed⟩
  exact ⟨rfl, rfl, hperm.map _⟩

/-- A body that provides a value while it runs. -/
def report : Template :=
  ⟨"ReportTxt", [], .default, [.literal "head\n", .request "ab" .plain, .literal " _a_ab_ ",
    .provide "abc" (.string "3"), .size]⟩

theorem report_provision_order :
    ∃ start first second, (new report).withMarker "_" = .ok start ∧
      start.provideAll [("a", .string "1"), ("ab", .string "2")] = .ok first ∧
      start.provideAll [("ab", .string "2"), ("a", .string "1")] = .ok second ∧
      first.compile.1 = .ok "2 1ab_ 3\n" ∧ second.compile.1 = .ok "2 1ab_ 3\n" := by
  obtain ⟨second, hsecond, hconcur, -⟩ := compile_provision_order report "_" _ _
    [("a", .string "1"), ("ab", .string "2")] [("ab", .string "2"), ("a", .string "1")] rfl
    (List.Perm.swap _ _ []) rfl
  let next : Registry := ⟨"_", [], [("a", ⟨.string "1", none⟩), ("ab", ⟨.string "2", none⟩),
    ("abc", ⟨.string "3", none⟩)]⟩
  have hregistry : next.WellFormed := ⟨by decide, by decide, by decide⟩
  have hall : next.AllRender := by
    intro entry hentry
    simp only [next, List.mem_cons, List.not_mem_nil, or_false] at hentry
    rcases hentry with rfl | rfl | rfl <;> exact ⟨_, rfl⟩
  have hsubstitute : next.substitute (dedent "head\n_ab_ _a_ab_ 3") = .ok "2 1ab_ 3\n" := by
    rw [Registry.substitute_eq_ok hregistry hall]
    decide +kernel
  have hfirst : compile ⟨report, ⟨"_", [], [("a", ⟨.string "1", none⟩),
      ("ab", ⟨.string "2", none⟩)]⟩, "", none, 0⟩ = (.ok "2 1ab_ 3\n", _) :=
    compile_of_substitute_ok rfl rfl hsubstitute
  exact ⟨_, _, second, rfl, rfl, hsecond, congrArg Prod.fst hfirst,
    (hconcur _).mp (congrArg Prod.fst hfirst)⟩

end Instance

end Stencil
