import Stencil.Proofs.Config.Instantiation
import Stencil.Proofs.Session.Reachable

/-!
What a configured template compiles to. Its registry is full from the start: every key that the
declarations admit has a value, so nothing can be provided later. Its body attaches the configured
transform to every key before anything is put in, so whatever was attached from outside is gone by
then. What can be done with the instance therefore never shows in a compilation, and whether it
succeeds, with which text or which fault, can be read off the entry.
-/

namespace Stencil

/-- Whether a step sets another marker. -/
def Step.setsMarker : Step → Bool
  | .withMarker _ => true
  | _ => false

namespace Setting

/-- What is wrong with a configured value: it is absent, or it is not a text and nothing is
configured that makes it one. -/
def fault? (key : String) (setting : Setting) : Option TemplateError :=
  if setting.value.isPresent = false then some (.emptyValue key)
  else if setting.transform = none ∧ setting.value.kind ≠ .string then
    some (.transformTypeMismatch key setting.value.kind)
  else none

/-- The configured transform. -/
def function? (setting : Setting) : Option (Value → String) :=
  (setting.transform.bind Transform.named?).map Transform.apply

/-- The configured transform of the value, or the value itself when it is a text and no transform is
configured. -/
def text (setting : Setting) : String :=
  match setting.function?, setting.value with
  | some transform, value => transform value
  | none, .string text => text
  | none, _ => ""

variable {setting : Setting} {key : String}

theorem resolve_choice (hknown : setting.isKnown = true) :
    setting.choice.resolve = .ok setting.function? := by
  rw [isKnown] at hknown
  rw [choice, function?]
  cases htransform : setting.transform with
  | none => rfl
  | some name =>
      rw [htransform] at hknown
      cases hnamed : Transform.named? name with
      | none => simp [hnamed] at hknown
      | some transform => simp [TransformChoice.resolve, hnamed]

theorem function?_eq_none_iff (hknown : setting.isKnown = true) :
    setting.function? = none ↔ setting.transform = none := by
  rw [isKnown] at hknown
  rw [function?]
  cases htransform : setting.transform with
  | none => simp
  | some name =>
      rw [htransform] at hknown
      cases hnamed : Transform.named? name with
      | none => simp [hnamed] at hknown
      | some transform => simp [hnamed]

theorem render_of_fault {e : TemplateError} (hknown : setting.isKnown = true)
    (hfault : setting.fault? key = some e) :
    Replacer.render key ⟨setting.value, setting.function?⟩ = .error e := by
  rw [fault?] at hfault
  rw [Replacer.render]
  cases hpresent : setting.value.isPresent with
  | false =>
      rw [if_pos hpresent] at hfault
      obtain rfl := Option.some.inj hfault
      rfl
  | true =>
      rw [if_neg (by simp [hpresent])] at hfault
      by_cases hplain : setting.transform = none ∧ setting.value.kind ≠ .string
      · rw [if_pos hplain] at hfault
        obtain rfl := Option.some.inj hfault
        rw [(function?_eq_none_iff hknown).mpr hplain.1]
        cases hvalue : setting.value with
        | string text => exact absurd (by rw [hvalue]; rfl) hplain.2
        | _ => rfl
      · rw [if_neg hplain] at hfault
        cases hfault

theorem render_of_no_fault (hknown : setting.isKnown = true) (hfault : setting.fault? key = none) :
    Replacer.render key ⟨setting.value, setting.function?⟩ = .ok setting.text := by
  rw [fault?] at hfault
  rw [Replacer.render, text]
  cases hpresent : setting.value.isPresent with
  | false =>
      rw [if_pos hpresent] at hfault
      cases hfault
  | true =>
      rw [if_neg (by simp [hpresent])] at hfault
      cases hfunction : setting.function? with
      | some transform => rfl
      | none =>
          have htransform := (function?_eq_none_iff hknown).mp hfunction
          cases hvalue : setting.value with
          | string text => rfl
          | _ => simp [htransform, hvalue, Value.kind] at hfault

end Setting

namespace Entry

/-- The transforms are known and the keys are different identifiers, so that an instance can be made
of the entry. -/
structure Sound (entry : Entry) : Prop where
  known : ∀ pair ∈ entry.replacers, pair.2.isKnown = true
  distinct : Distinct entry.replacers

/-- The fault of the first configured value that has one. -/
def fault? (entry : Entry) : Option TemplateError :=
  entry.replacers.findSome? fun pair => pair.2.fault? pair.1

/-- The text that is configured for a key. -/
def text (entry : Entry) (key : String) : String :=
  ((entry.setting? key).map Setting.text).getD ""

/-- The configured value of a key under its configured transform. -/
def assigned (pair : String × Setting) : String × Replacer :=
  (pair.1, ⟨pair.2.value, pair.2.function?⟩)

/-- The registry with the configured values and transforms. -/
def configured (entry : Entry) (marker : String) : Registry where
  marker := marker
  declared := entry.declared
  entries := entry.replacers.map assigned

variable {entry : Entry} {body marker : String} {inst : Instance} {registry : Registry}

theorem keys_configured (entry : Entry) (marker : String) :
    (entry.configured marker).keys = entry.replacers.map (·.1) := by
  simp [configured, assigned, Registry.keys, Function.comp_def]

theorem wellFormed_configured (hmarker : marker ≠ "") (hsound : entry.Sound) :
    (entry.configured marker).WellFormed where
  marker_ne := hmarker
  nodup := by
    rw [keys_configured]
    exact hsound.distinct.nodup
  identifiers := by
    rw [keys_configured]
    intro key hkey
    obtain ⟨pair, hpair, rfl⟩ := List.mem_map.mp hkey
    exact hsound.distinct.identifiers pair hpair

/-! Putting the configured values in. -/

theorem substitute_of_fault {e : TemplateError} (hsound : entry.Sound)
    (hfault : entry.fault? = some e) (text : String) :
    (entry.configured marker).substitute text = .error e := by
  obtain ⟨before, pair, after, hsplit, hhere, hbefore⟩ := List.findSome?_eq_some_iff.mp hfault
  have hknown := hsound.known
  rw [hsplit] at hknown
  have hentries : (entry.configured marker).entries =
      before.map assigned ++ assigned pair :: after.map assigned := by
    rw [configured, hsplit, List.map_append, List.map_cons]
  have hrefused := Setting.render_of_fault (hknown pair (by simp)) hhere
  refine Registry.substitute_of_first_fault hentries ?_ hrefused text
  intro replacer hreplacer
  obtain ⟨earlier, hearlier, rfl⟩ := List.mem_map.mp hreplacer
  exact ⟨earlier.2.text,
    Setting.render_of_no_fault (hknown earlier (by simp [hearlier])) (hbefore earlier hearlier)⟩

theorem rendered_configured {key : String} (hsound : entry.Sound) (hfault : entry.fault? = none)
    (hkey : key ∈ entry.replacers.map (·.1)) :
    (entry.configured marker).rendered key = entry.text key := by
  cases hfound : entry.setting? key with
  | none =>
      obtain ⟨pair, hpair, rfl⟩ := List.mem_map.mp hkey
      have hother := List.lookup_eq_none_iff.mp hfound pair hpair
      simp at hother
  | some setting =>
      have hmem : (key, setting) ∈ entry.replacers := by
        obtain ⟨before, after, hsplit, -⟩ := List.lookup_eq_some_iff.mp hfound
        simp [hsplit]
      have hreplacer : (entry.configured marker).replacer? key =
          some ⟨setting.value, setting.function?⟩ := by
        refine Registry.replacer?_of_mem ?_ (List.mem_map.mpr ⟨(key, setting), hmem, rfl⟩)
        rw [keys_configured]
        exact hsound.distinct.nodup
      have hnone := List.findSome?_eq_none_iff.mp hfault (key, setting) hmem
      rw [Registry.rendered, hreplacer]
      simp only [Setting.render_of_no_fault (hsound.known (key, setting) hmem) hnone]
      rw [text, hfound]
      rfl

theorem substitute_of_no_fault {pieces : List Piece} (hmarker : marker ≠ "")
    (hsound : entry.Sound) (hfault : entry.fault? = none) (text : String)
    (hreads : Piece.Reads marker.toList (entry.replacers.map (·.1)) text.toList pieces) :
    (entry.configured marker).substitute text =
      .ok (String.ofList (pieces.flatMap (Piece.fill fun key => (entry.text key).toList))) := by
  have hregistry := wellFormed_configured hmarker hsound
  have hall : (entry.configured marker).AllRender := by
    intro replacer hreplacer
    obtain ⟨pair, hpair, rfl⟩ := List.mem_map.mp hreplacer
    have hnone := List.findSome?_eq_none_iff.mp hfault pair hpair
    exact ⟨pair.2.text, Setting.render_of_no_fault (hsound.known pair hpair) hnone⟩
  have hslots (key : String) (hkey : .slot key ∈ pieces) :
      ((entry.configured marker).rendered key).toList = (entry.text key).toList := by
    rw [rendered_configured hsound hfault (hreads.slot_mem hkey)]
  rw [Registry.substitute_eq_ok hregistry hall, keys_configured, Registry.filled]
  rw [← hreads.eq_scan (Registry.marker_toList_ne_nil hregistry.marker_ne)]
  rw [Piece.flatMap_fill_congr hslots]

/-! Attaching the configured transforms. -/

/-- One action of the body puts the configured transform in the place of the one that the key's
entry has. -/
theorem run_attach {key : String} {setting : Setting} {replacer : Replacer}
    {done held : List (String × Replacer)} (hknown : setting.isKnown = true)
    (hentries : registry.entries = done ++ (key, replacer) :: held)
    (hnodup : registry.keys.Nodup) :
    Action.run registry (.attach key setting.choice) = (.ok "", { registry with
      entries := done ++ (key, { replacer with transform := setting.function? }) :: held }) := by
  have hmem : key ∈ registry.keys := by simp [Registry.keys, hentries]
  have hfresh : key ∉ done.map (·.1) := by
    rw [Registry.keys, hentries, List.map_append, List.nodup_append] at hnodup
    intro hdone
    exact hnodup.2.2 key hdone key (by simp) rfl
  have hset : Registry.setTransform key setting.function? registry.entries =
      done ++ (key, { replacer with transform := setting.function? }) :: held := by
    rw [hentries, Registry.setTransform_append_right hfresh, Registry.setTransform, if_pos rfl]
  have hattach : registry.attach key setting.function? = .ok { registry with
      entries := Registry.setTransform key setting.function? registry.entries } :=
    Registry.attach_eq_ok_iff.mpr ⟨hmem, rfl⟩
  rw [← hset]
  exact Action.run_attach_eq_ok_iff.mpr ⟨rfl, _, Registry.request_eq_ok_iff.mpr
    ⟨_, Setting.resolve_choice hknown, hattach, rfl⟩⟩

/-- The whole body sets every transform anew, whichever the entries had. Those that it has come past
stand in front. -/
theorem runAll_attach {replacers : List (String × Setting)} {done held : List (String × Replacer)}
    (text : String) (hknown : ∀ pair ∈ replacers, pair.2.isKnown = true)
    (hentries : registry.entries = done ++ held)
    (hheld : held.map (fun entry => (entry.1, entry.2.value)) =
      replacers.map fun pair => (pair.1, pair.2.value))
    (hnodup : registry.keys.Nodup) :
    Action.runAll registry ((replacers.map fun (key, setting) => .attach key setting.choice) ++
        [.literal text]) =
      (.ok text, { registry with entries := done ++ replacers.map assigned }) := by
  induction replacers generalizing registry done held with
  | nil =>
      obtain rfl := List.map_eq_nil_iff.mp hheld
      have hsame : { registry with entries := done ++ [] } = registry := by rw [← hentries]
      have hlast : Action.run registry (.literal text) = (.ok text, registry) := rfl
      rw [List.map_nil, List.map_nil, List.nil_append, hsame, Action.runAll_cons_of_ok hlast]
      simp [Action.runAll, Except.map]
  | cons pair rest ih =>
      obtain ⟨key, setting⟩ := pair
      rw [List.forall_mem_cons] at hknown
      cases held with
      | nil => cases hheld
      | cons entry others =>
          obtain ⟨name, replacer⟩ := entry
          simp only [List.map_cons, List.cons.injEq, Prod.mk.injEq] at hheld
          obtain ⟨⟨rfl, hvalue⟩, hothers⟩ := hheld
          have hrun := run_attach hknown.1 hentries hnodup
          have hkeys : (done ++ (name, replacer) :: others).map (·.1) = registry.keys := by
            rw [Registry.keys, hentries]
          rw [List.map_cons, List.cons_append, Action.runAll_cons_of_ok hrun]
          rw [ih hknown.2 (List.append_cons _ _ _) hothers]
          · simp [Except.map, assigned, hvalue]
          · simp only [List.map_append, List.map_cons] at hkeys
            simpa [Registry.keys, hkeys] using hnodup

/-! Whatever is done with the instance. -/

/-- An instance that holds what the entry says. Only its transforms may be others. -/
structure Holds (entry : Entry) (body marker : String) (inst : Instance) : Prop where
  template_eq : inst.template = (entry.ready body marker).template
  marker_eq : inst.registry.marker = marker
  declared_eq : inst.registry.declared = entry.declared
  pairs_eq : inst.registry.pairs = entry.replacers.map fun pair => (pair.1, pair.2.value)

theorem holds_ready (entry : Entry) (body marker : String) :
    entry.Holds body marker (entry.ready body marker) where
  template_eq := rfl
  marker_eq := rfl
  declared_eq := rfl
  pairs_eq := by
    rw [ready, Registry.pairs, List.map_map]
    rfl

theorem Holds.keys_eq (h : entry.Holds body marker inst) :
    inst.registry.keys = entry.replacers.map (·.1) := by
  rw [Registry.keys_eq_map_pairs, h.pairs_eq, List.map_map]
  rfl

theorem Holds.key_mem (h : entry.Holds body marker inst) {declaration : Declaration}
    (hmem : declaration ∈ inst.registry.declared) : declaration.key ∈ inst.registry.keys := by
  rw [h.declared_eq, declared] at hmem
  obtain ⟨pair, hpair, rfl⟩ := List.mem_map.mp hmem
  rw [h.keys_eq]
  exact List.mem_map.mpr ⟨pair, hpair, rfl⟩

/-- Nothing can be provided any more: a key is not declared, or it is taken. -/
theorem Holds.provide_refused (h : entry.Holds body marker inst) (hreplacers : entry.replacers ≠ [])
    (key : String) (value : Value) : ∃ e, inst.registry.provide key value = .error e := by
  cases hprovide : inst.registry.provide key value with
  | error e => exact ⟨e, rfl⟩
  | ok next =>
      obtain ⟨-, hadmits, hfresh, -⟩ := Registry.provide_eq_ok_iff.mp hprovide
      have hne : inst.registry.declared ≠ [] := by
        rw [h.declared_eq, declared]
        simpa using hreplacers
      obtain ⟨declaration, hfound, -⟩ := Registry.admits_eq_ok_iff.mp hadmits hne
      have hkey : declaration.key = key := by simpa using List.find?_some hfound
      have htaken := h.key_mem (List.mem_of_find?_eq_some hfound)
      rw [hkey] at htaken
      exact absurd htaken hfresh

theorem Holds.runAll_eq (h : entry.Holds body marker inst) (hsound : entry.Sound) :
    Action.runAll inst.registry inst.template.body =
      (.ok ("\n" ++ body), entry.configured marker) := by
  have hnodup : inst.registry.keys.Nodup := by
    rw [h.keys_eq]
    exact hsound.distinct.nodup
  have hbody : inst.template.body = entry.actions body := by rw [h.template_eq, ready]
  have hrun := runAll_attach ("\n" ++ body) hsound.known (List.nil_append _).symm h.pairs_eq hnodup
  rw [hbody, actions, hrun]
  simp [configured, h.marker_eq, h.declared_eq]

/-- Each compilation puts the configured values into the body under the configured transforms. -/
theorem Holds.compile_eq (h : entry.Holds body marker inst) (hsound : entry.Sound) :
    let result := (entry.configured marker).substitute (dedent ("\n" ++ body))
    inst.compile = (result, { inst with
      registry := entry.configured marker
      compiled := result.toOption.getD inst.compiled }) := by
  have hprovided : inst.registry.ensureProvided = .ok () :=
    Registry.ensureProvided_eq_ok_iff.mpr fun declaration hmem => h.key_mem hmem
  rw [Instance.compile_of_provided hprovided (h.runAll_eq hsound)]
  rfl

theorem Holds.of_registry {other : Instance} (h : entry.Holds body marker inst)
    (htemplate : other.template = inst.template) (hregistry : other.registry = inst.registry) :
    entry.Holds body marker other := by
  refine ⟨?_, ?_, ?_, ?_⟩
  · exact htemplate.trans h.template_eq
  · rw [hregistry, h.marker_eq]
  · rw [hregistry, h.declared_eq]
  · rw [hregistry, h.pairs_eq]

theorem Holds.next {step : Step} (h : entry.Holds body marker inst)
    (hreplacers : entry.replacers ≠ []) (hsound : entry.Sound)
    (hstep : step.setsMarker = false) :
    entry.Holds body marker (step.next inst) := by
  cases step with
  | withMarker marker => cases hstep
  | provide key value =>
      obtain ⟨e, he⟩ := h.provide_refused hreplacers key value
      rw [Step.next, Instance.provide, he]
      exact h
  | request key choice =>
      rw [Step.next, Instance.request]
      cases hrequest : inst.registry.request key choice with
      | error e => exact h
      | ok answer =>
          obtain ⟨transform, -, hattach, -⟩ := Registry.request_eq_ok_iff.mp hrequest
          have hedit := Registry.Edit.attach hattach
          exact ⟨h.template_eq, hedit.marker_eq.trans h.marker_eq,
            hedit.declared_eq.trans h.declared_eq,
            (Registry.pairs_of_attach hattach).trans h.pairs_eq⟩
  | compile =>
      have hcompile := h.compile_eq hsound
      rw [Step.next, hcompile]
      refine ⟨h.template_eq, rfl, rfl, ?_⟩
      simp [configured, assigned, Registry.pairs, Function.comp_def]
  | fileName | name | extension | fullName | writeSync _ | write _ | spawnWrite _ =>
      exact h.of_registry inst.fileName_template inst.fileName_registry

theorem Holds.after {steps : List Step} (h : entry.Holds body marker inst) (session : Disk)
    (hreplacers : entry.replacers ≠ []) (hsound : entry.Sound)
    (hsteps : ∀ step ∈ steps, step.setsMarker = false) :
    entry.Holds body marker (inst.after session steps) := by
  refine Instance.after_induction session ?_ h
  intro step hstep middle hmiddle
  exact hmiddle.next hreplacers hsound (hsteps step hstep)

/-- An entry with replacers that has become an instance. What a compilation answers is settled by
the entry, its body and the marker: the fault of the first value in the order of the entry that has
one, or the body with the configured texts put in. No session of other steps changes this answer,
and none provides another value. -/
theorem compile_as_configured (entry : Entry) (folder marker : String) (disk read : Disk)
    (inst : Instance) (hreplacers : entry.replacers ≠ [])
    (hinst : (entry.instantiate folder marker : StateM Disk _).run disk = (.ok inst, read)) :
    ∃ body outcome, (entry.loadBody folder : StateM Disk _).run disk = (.ok body, read) ∧
      (match entry.fault? with
        | some e => outcome = .error e
        | none => ∃ pieces,
            Piece.Reads marker.toList (entry.replacers.map (·.1)) (dedent ("\n" ++ body)).toList
              pieces ∧
            outcome = .ok (String.ofList (pieces.flatMap
              (Piece.fill fun key => (entry.text key).toList)))) ∧
      ∀ (session : Disk) (steps : List Step), (∀ step ∈ steps, step.setsMarker = false) →
        (∀ key value, ∃ e, (inst.after session steps).provide key value = .error e) ∧
        (inst.after session steps).compile.1 = outcome ∧
        ∀ text, outcome = .ok text → (inst.after session steps).compile.2.compiled = text := by
  obtain ⟨rfl, houtcome⟩ := instantiate_run_iff.mp hinst
  cases houtcome with
  | @ready body hbody hknown hmarker hdistinct =>
      have hsound : entry.Sound := ⟨hknown, hdistinct⟩
      refine ⟨body, (entry.configured marker).substitute (dedent ("\n" ++ body)),
        loadBody_of_hasBody hbody, ?_, ?_⟩
      · cases hfault : entry.fault? with
        | some e => exact substitute_of_fault hsound hfault _
        | none =>
            have hchars : marker.toList ≠ [] := by simpa using hmarker
            have hreads := Piece.reads_scan hchars (entry.replacers.map (·.1))
              (dedent ("\n" ++ body)).toList
            exact ⟨_, hreads, substitute_of_no_fault hmarker hsound hfault _ hreads⟩
      · intro session steps hsteps
        have hholds := (holds_ready entry body marker).after session hreplacers hsound hsteps
        have hcompile := hholds.compile_eq hsound
        refine ⟨?_, ?_, ?_⟩
        · intro key value
          obtain ⟨e, he⟩ := hholds.provide_refused hreplacers key value
          exact ⟨e, by rw [Instance.provide, he]; rfl⟩
        · rw [hcompile]
        · intro text htext
          rw [hcompile, htext]
          rfl

/-- An entry with a transform that a session may well take away, but not for a compilation. -/
def card : Entry where
  identifier := "CardTxt"
  name := none
  extension := none
  suffix := FileName.defaultSuffix
  body := some "__name__ __tags__\n"
  file := none
  replacers := [("name", .plain (.string "Ada")), ("tags", .detailed (.array []) (some "json"))]
  enabled := true

theorem compile_card :
    card.replacers ≠ [] ∧
      ∃ inst, (card.instantiate "." "__" : StateM Disk _).run (Disk.empty []) =
          (.ok inst, Disk.empty []) ∧
        let last := inst.after (Disk.empty []) [.request "tags" .plain,
          .provide "more" (.string "x"), .compile, .request "name" (.function fun _ => "y")]
        (∃ e, last.provide "more" (.string "x") = .error e) ∧
          last.compile.1 = .ok "Ada []\n" := by
  have hreplacers : card.replacers ≠ [] := by decide
  have hinst : (card.instantiate "." "__" : StateM Disk _).run (Disk.empty []) =
      (.ok (card.ready "__name__ __tags__\n" "__"), Disk.empty []) := by
    refine (Outcome.ready (HasBody.given rfl rfl) ?_ (by decide)
      ⟨by decide, by decide⟩).instantiate_eq
    decide +kernel
  obtain ⟨body, outcome, hbody, houtcome, hsession⟩ :=
    compile_as_configured card "." "__" _ _ _ hreplacers hinst
  obtain ⟨hprovide, hcompile, -⟩ := hsession (Disk.empty []) [.request "tags" .plain,
    .provide "more" (.string "x"), .compile, .request "name" (.function fun _ => "y")] (by decide)
  obtain rfl : "__name__ __tags__\n" = body := Except.ok.inj (congrArg Prod.fst hbody)
  have hfault : card.fault? = none := rfl
  rw [hfault] at houtcome
  obtain ⟨pieces, hreads, rfl⟩ := houtcome
  refine ⟨hreplacers, _, hinst, hprovide "more" _, hcompile.trans ?_⟩
  rw [hreads.eq_scan (by decide)]
  decide +kernel

end Entry

end Stencil
