import Stencil.Proofs.Instance.Recompile
import Stencil.Proofs.Session.Reachable

/-!
What is left behind by a step that fails. Providing, requesting and setting the marker either
succeed or do nothing. A compilation can fail in the middle of its body or after it; the actions
that were run by then have had their effect on the registry, and everything else is as it was. The
compiled text is touched by a compilation that succeeds and by nothing else, so at any point of a
session it is the text of the last such compilation.
-/

namespace Stencil.Registry

variable {registry next : Registry} {key name : String} {value : Value}
  {transform : Option (Value → String)}

theorem lookup_setTransform (hne : key ≠ name) (transform : Option (Value → String))
    (entries : List (String × Replacer)) :
    (setTransform name transform entries).lookup key = entries.lookup key := by
  induction entries with
  | nil => rfl
  | cons entry rest ih =>
      obtain ⟨other, replacer⟩ := entry
      rw [setTransform]
      by_cases hother : other = name
      · have hkey : (key == other) = false := by
          rw [beq_eq_false_iff_ne]
          exact fun h => hne (h.trans hother)
        rw [if_pos hother, List.lookup_cons, List.lookup_cons, hkey]
      · rw [if_neg hother, List.lookup_cons, List.lookup_cons, ih]

theorem replacer?_of_attach (hne : key ≠ name)
    (hattach : registry.attach name transform = .ok next) :
    next.replacer? key = registry.replacer? key := by
  obtain ⟨-, rfl⟩ := attach_eq_ok_iff.mp hattach
  exact lookup_setTransform hne transform registry.entries

/-- A value that is provided stands behind those that were there. -/
theorem replacer?_of_provide (hkey : key ∈ registry.keys)
    (hprovide : registry.provide name value = .ok next) :
    next.replacer? key = registry.replacer? key := by
  obtain ⟨-, -, -, rfl⟩ := provide_eq_ok_iff.mp hprovide
  obtain ⟨entry, hentry, rfl⟩ := List.mem_map.mp hkey
  have hfound : (registry.entries.lookup entry.1).isSome = true := by
    rw [List.lookup_isSome_iff]
    exact ⟨entry, hentry, beq_self_eq_true _⟩
  rw [replacer?, replacer?, List.lookup_append, Option.or_of_isSome hfound]

end Stencil.Registry

namespace Stencil.Action

variable {registry next last : Registry} {action : Action} {actions more : List Action}
  {text : String}

/-- The value that an action provides, if it does that. -/
def addition : Action → List (String × Value)
  | .provide key value => [(key, value)]
  | _ => []

/-- What actions make of a registry when all of them succeed: they add the values that they provide
and set transforms of the keys that they name. -/
structure Effect (actions : List Action) (registry next : Registry) : Prop where
  marker_eq : next.marker = registry.marker
  declared_eq : next.declared = registry.declared
  pairs_eq : next.pairs = registry.pairs ++ actions.flatMap addition
  replacer?_eq : ∀ key ∈ registry.keys, (∀ action ∈ actions, key ∉ action.target) →
    next.replacer? key = registry.replacer? key

theorem effect_nil (registry : Registry) : Effect [] registry registry where
  marker_eq := rfl
  declared_eq := rfl
  pairs_eq := by rw [List.flatMap_nil, List.append_nil]
  replacer?_eq _ _ _ := rfl

theorem Effect.keys_subset (h : Effect actions registry next) : registry.keys ⊆ next.keys := by
  rw [Registry.keys_eq_map_pairs, Registry.keys_eq_map_pairs, h.pairs_eq, List.map_append]
  exact List.subset_append_left _ _

theorem Effect.cons (hfirst : Effect [action] registry next) (hrest : Effect actions next last) :
    Effect (action :: actions) registry last where
  marker_eq := hrest.marker_eq.trans hfirst.marker_eq
  declared_eq := hrest.declared_eq.trans hfirst.declared_eq
  pairs_eq := by
    rw [hrest.pairs_eq, hfirst.pairs_eq, List.flatMap_singleton, List.flatMap_cons,
      List.append_assoc]
  replacer?_eq key hkey htarget := by
    rw [List.forall_mem_cons] at htarget
    rw [hrest.replacer?_eq key (hfirst.keys_subset hkey) htarget.2]
    refine hfirst.replacer?_eq key hkey ?_
    rw [List.forall_mem_singleton]
    exact htarget.1

theorem effect_unchanged (haddition : action.addition = []) :
    Effect [action] registry registry where
  marker_eq := rfl
  declared_eq := rfl
  pairs_eq := by rw [List.flatMap_singleton, haddition, List.append_nil]
  replacer?_eq _ _ _ := rfl

theorem effect_of_request {key : String} {choice : TransformChoice}
    (haddition : action.addition = []) (htarget : action.target = {key})
    (hrequest : registry.request key choice = .ok (text, next)) :
    Effect [action] registry next := by
  obtain ⟨transform, -, hattach, -⟩ := Registry.request_eq_ok_iff.mp hrequest
  have hedit := Registry.Edit.attach hattach
  refine ⟨hedit.marker_eq, hedit.declared_eq, ?_, ?_⟩
  · rw [Registry.pairs_of_attach hattach, List.flatMap_singleton, haddition, List.append_nil]
  · intro other _ hother
    rw [List.forall_mem_singleton, htarget] at hother
    exact Registry.replacer?_of_attach hother hattach

/-- One action that succeeds. -/
theorem effect_run (hrun : action.run registry = (.ok text, next)) :
    Effect [action] registry next := by
  cases action with
  | literal text =>
      cases hrun
      exact effect_unchanged rfl
  | request key choice =>
      exact effect_of_request rfl rfl (run_request_eq_ok_iff.mp hrun)
  | attach key choice =>
      obtain ⟨-, _, hrequest⟩ := run_attach_eq_ok_iff.mp hrun
      exact effect_of_request rfl rfl hrequest
  | placeholder key =>
      cases hrun
      exact effect_unchanged rfl
  | provide key value =>
      rw [run] at hrun
      cases hprovide : registry.provide key value with
      | error e =>
          rw [hprovide] at hrun
          cases hrun
      | ok provided =>
          rw [hprovide] at hrun
          cases hrun
          have hedit := Registry.Edit.provide hprovide
          exact ⟨hedit.marker_eq, hedit.declared_eq, Registry.pairs_of_provide hprovide,
            fun _ hkey _ => Registry.replacer?_of_provide hkey hprovide⟩
  | substitute text =>
      obtain rfl : registry = next := congrArg Prod.snd hrun
      exact effect_unchanged rfl
  | size =>
      cases hrun
      exact effect_unchanged rfl

/-- A body comes to an end or stops at a failure. Either way the registry is what the actions run
by then make of it. -/
theorem exists_effect_runAll (registry : Registry) (actions : List Action) :
    ∃ ran, ran <+: actions ∧ Effect ran registry (runAll registry actions).2 := by
  induction actions generalizing registry with
  | nil => exact ⟨[], List.prefix_refl _, effect_nil registry⟩
  | cons action rest ih =>
      cases hrun : action.run registry with
      | mk result next =>
          cases result with
          | error e =>
              rw [runAll_cons_of_error hrun, eq_of_run_error hrun]
              exact ⟨[], List.nil_prefix, effect_nil registry⟩
          | ok text =>
              rw [runAll_cons_of_ok hrun]
              obtain ⟨ran, hran, heffect⟩ := ih next
              have hall : action :: ran <+: action :: rest := List.cons_prefix_cons.mpr ⟨rfl, hran⟩
              exact ⟨action :: ran, hall, (effect_run hrun).cons heffect⟩

end Stencil.Action

namespace Stencil

variable {inst : Instance} {disk : Disk} {e : TemplateError}

theorem Instance.exists_effect_compile (inst : Instance) :
    ∃ ran, ran <+: inst.template.body ∧
      Action.Effect ran inst.registry inst.compile.2.registry := by
  cases hprovided : inst.registry.ensureProvided with
  | error e =>
      rw [Instance.compile_of_missing hprovided]
      exact ⟨[], List.nil_prefix, Action.effect_nil inst.registry⟩
  | ok _ =>
      rw [Instance.compile_registry_of_provided hprovided]
      exact Action.exists_effect_runAll inst.registry inst.template.body

theorem Instance.compile_snd_of_error (h : inst.compile.1 = .error e) :
    inst.compile.2 = { inst with registry := inst.compile.2.registry } := by
  have hsnd := inst.compile_snd
  rwa [h, Except.toOption, Option.getD_none] at hsnd

namespace Step

/-- What a step that fails keeps of an instance. Only a compilation can have done something by
then, to the registry, and a step that names the file, to what is known of its name. -/
def Keeps (inst next : Instance) : Step → Prop
  | .withMarker _ => next = inst
  | .provide _ _ => next = inst
  | .request _ _ => next = inst
  | .compile =>
    next = { inst with registry := next.registry } ∧
      ∃ ran, ran <+: inst.template.body ∧ Action.Effect ran inst.registry next.registry
  | .fileName | .name | .extension | .fullName =>
    next = { inst with namingCalls := next.namingCalls }
  | .writeSync _ | .write _ | .spawnWrite _ =>
    next = { inst with knownName := next.knownName, namingCalls := next.namingCalls }

theorem keeps_orKeep {result : Except TemplateError Instance}
    (h : (inst.orKeep result).1 = .error e) : (inst.orKeep result).2 = inst := by
  cases result with
  | error _ => rfl
  | ok _ => cases h

end Step

theorem Instance.fileName_snd (inst : Instance) :
    inst.fileName.2 = { inst with
      knownName := inst.fileName.2.knownName
      namingCalls := inst.fileName.2.namingCalls } := by
  rw [Instance.fileName]
  cases inst.knownName with
  | none => rfl
  | some file => rfl

/-- A failed attempt to name the file is counted and not remembered. -/
theorem Instance.fileName_snd_of_error (h : inst.fileName.1 = .error e) :
    inst.fileName.2 = { inst with namingCalls := inst.fileName.2.namingCalls } := by
  cases hknown : inst.knownName with
  | some file => simp [Instance.fileName, hknown] at h
  | none =>
      have hfault : inst.template.fileName inst.namingCalls = .error e := by
        simpa [Instance.fileName, hknown] using h
      simp [Instance.fileName, hknown, hfault, Except.toOption]

/-- What is passed on fails as it did before. -/
theorem error_of_map {α β : Type} {outcome : Except TemplateError α} {f : α → β}
    (h : outcome.map f = .error e) : outcome = .error e := by
  cases outcome with
  | error cause => exact congrArg Except.error (Except.error.inj h)
  | ok result => cases h

/-- A part of the name is there when the name is. -/
theorem Instance.fileName_error_of_nameView {α β : Type} {view : FileName → α} {answer : α → β}
    (h : (inst.nameView view).1.map answer = .error e) : inst.fileName.1 = .error e := by
  have hview : inst.fileName.1.map view = .error e := error_of_map h
  exact error_of_map hview

theorem Step.keeps_of_error {step : Step}
    (h : ((step.run inst : StateM Disk _).run disk).1.1 = .error e) :
    step.Keeps inst ((step.run inst : StateM Disk _).run disk).1.2 := by
  rw [Step.run_snd]
  cases step with
  | withMarker marker => exact keeps_orKeep h
  | provide key value => exact keeps_orKeep h
  | request key choice =>
      rw [Step.run] at h
      rw [Step.Keeps, Step.next]
      cases hrequest : inst.request key choice with
      | error _ => rfl
      | ok answer =>
          rw [hrequest] at h
          cases h
  | compile =>
      have hfailed : inst.compile.1.map Answer.text = .error e := h
      exact ⟨Instance.compile_snd_of_error (error_of_map hfailed), inst.exists_effect_compile⟩
  | fileName =>
      have hfailed : inst.fileName.1.map Answer.file = .error e := h
      exact Instance.fileName_snd_of_error (error_of_map hfailed)
  | name | extension | fullName =>
      exact Instance.fileName_snd_of_error (Instance.fileName_error_of_nameView h)
  | writeSync _ | write _ | spawnWrite _ => exact inst.fileName_snd

/-! The compiled text along a session. -/

/-- The text that a step has compiled, if it is a compilation and succeeded. -/
def Step.output? : Step → Except TemplateError Answer → Option String
  | .compile, .ok (.text text) => some text
  | _, _ => none

/-- The answers of a session on a disk, one for each step. -/
def Instance.answers (inst : Instance) (disk : Disk) (steps : List Step) :
    List (Except TemplateError Answer) :=
  ((Step.runAll inst steps : StateM Disk _).run disk).1.1

theorem Step.compiled_next {step : Step} (hstep : step ≠ .compile) :
    (step.next inst).compiled = inst.compiled := by
  cases step with
  | withMarker marker =>
      rw [next, Instance.withMarker]
      cases inst.registry.withMarker marker <;> rfl
  | provide key value =>
      rw [next, Instance.provide]
      cases inst.registry.provide key value <;> rfl
  | request key choice =>
      rw [next, Instance.request]
      cases inst.registry.request key choice <;> rfl
  | compile => exact absurd rfl hstep
  | fileName | name | extension | fullName | writeSync _ | write _ | spawnWrite _ =>
      rw [next, Instance.fileName_snd]

theorem Step.output?_of_ne {step : Step} (hstep : step ≠ .compile)
    (answer : Except TemplateError Answer) : step.output? answer = none := by
  cases step with
  | compile => exact absurd rfl hstep
  | _ => rfl

theorem Step.output?_error (step : Step) (e : TemplateError) : step.output? (.error e) = none := by
  cases step with
  | compile => rfl
  | _ => rfl

theorem Step.output?_compile (result : Except TemplateError String) :
    Step.compile.output? (result.map .text) = result.toOption := by
  cases result with
  | error _ => rfl
  | ok text => rfl

/-- One step replaces the compiled text when it has one to put in its place. -/
theorem Step.compiled_run (inst : Instance) (disk : Disk) (step : Step) :
    ((step.run inst : StateM Disk _).run disk).1.2.compiled =
      (step.output? ((step.run inst : StateM Disk _).run disk).1.1).getD inst.compiled := by
  rw [Step.run_snd]
  by_cases hstep : step = .compile
  · subst hstep
    have hanswer : ((Step.compile.run inst : StateM Disk _).run disk).1.1 =
        inst.compile.1.map .text := rfl
    rw [hanswer, Step.output?_compile, Step.next, Instance.compile_snd]
  · rw [Step.output?_of_ne hstep, Option.getD_none, Step.compiled_next hstep]

/-- The texts that a session has compiled, in their order. -/
def Instance.outputs (inst : Instance) (disk : Disk) (steps : List Step) : List String :=
  (steps.zip (inst.answers disk steps)).filterMap fun answered => answered.1.output? answered.2

section

variable {next : Instance} {other : Disk} {step : Step} {answer : Except TemplateError Answer}

theorem Instance.runAll_cons
    (hrun : (step.run inst : StateM Disk _).run disk = ((answer, next), other))
    (rest : List Step) :
    (Step.runAll inst (step :: rest) : StateM Disk _).run disk =
      ((answer :: next.answers other rest, next.after other rest),
        ((Step.runAll next rest : StateM Disk _).run other).2) := by
  rw [Step.runAll, StateT.run_bind, hrun]
  rfl

theorem Instance.after_cons
    (hrun : (step.run inst : StateM Disk _).run disk = ((answer, next), other))
    (rest : List Step) : inst.after disk (step :: rest) = next.after other rest := by
  rw [after, runAll_cons hrun]

theorem Instance.outputs_cons
    (hrun : (step.run inst : StateM Disk _).run disk = ((answer, next), other))
    (rest : List Step) :
    inst.outputs disk (step :: rest) =
      (step.output? answer).toList ++ next.outputs other rest := by
  rw [outputs, answers, runAll_cons hrun, List.zip_cons_cons, List.filterMap_cons]
  cases step.output? answer with
  | none => rfl
  | some text => rfl

end

/-- At any point of a session the compiled text is the one of the last compilation that succeeded;
without any it is the one from the start. -/
theorem Instance.compiled_after (inst : Instance) (disk : Disk) (steps : List Step) :
    (inst.after disk steps).compiled = (inst.outputs disk steps).getLastD inst.compiled := by
  induction steps generalizing inst disk with
  | nil => rfl
  | cons step rest ih =>
      have hcompiled := Step.compiled_run inst disk step
      cases hrun : (step.run inst : StateM Disk _).run disk with
      | mk outcome other =>
          obtain ⟨answer, next⟩ := outcome
          rw [hrun] at hcompiled
          rw [after_cons hrun, outputs_cons hrun, ih, hcompiled]
          cases step.output? answer with
          | none => rfl
          | some text => exact List.getLastD_cons.symm

/-- A step that fails keeps what a session has come to. A value that cannot be provided and a
placeholder that is not given change nothing at all. A compilation that fails may have run some
actions of the body, from the first on; it keeps the compiled text, the marker, the declarations,
what is known of the file name, and all values in their order, with only those values behind them
that these actions provide and other transforms only for keys that they name. So the compiled text
is at every point that of the last compilation that succeeded, or empty before the first. -/
theorem Instance.failure_keeps_output (template : Template) (disk : Disk) (steps : List Step) :
    let inst := (new template).after disk steps
    inst.compiled = ((new template).outputs disk steps).getLastD "" ∧
      ∀ (step : Step) (current : Disk) (e : TemplateError),
        let outcome := ((step.run inst : StateM Disk _).run current).1
        outcome.1 = .error e → outcome.2.compiled = inst.compiled ∧ step.Keeps inst outcome.2 := by
  intro inst
  refine ⟨compiled_after (new template) disk steps, ?_⟩
  intro step current e outcome hfailed
  refine ⟨?_, Step.keeps_of_error hfailed⟩
  have hcompiled := Step.compiled_run inst current step
  rwa [hfailed, Step.output?_error, Option.getD_none] at hcompiled

end Stencil
