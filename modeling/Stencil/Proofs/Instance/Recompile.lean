import Mathlib.Order.BooleanAlgebra.Set
import Stencil.Disk.Basic
import Stencil.Proofs.Instance.Compile
import Stencil.Proofs.Registry.Reattach
import Stencil.Session

/-!
Compiling leaves nothing behind that a later compilation could see. A body that only looks things up
changes nothing but the transforms of keys, until it fails or ends. The same body, run later on a
registry with no fewer keys, gets at least as far as before, so it attaches all those transforms
anew. What is done to the registry in between is answered alike whether the body was run before or
not.
-/

namespace Stencil

variable {registry other next : Registry} {keys : Set String}

namespace Action

/-- The actions that neither provide a value nor put values in. -/
def isLookup : Action → Bool
  | .provide _ _ => false
  | .substitute _ => false
  | _ => true

/-- The key to which an action attaches a transform, if it does that. -/
def target : Action → Set String
  | .request key _ => {key}
  | .attach key _ => {key}
  | _ => ∅

/-- The keys to which a body attaches transforms before it fails, or before it ends. -/
def attached (registry : Registry) : List Action → Set String
  | [] => ∅
  | action :: rest =>
    match action.run registry with
    | (.error _, _) => ∅
    | (.ok _, next) => action.target ∪ attached next rest

theorem attached_cons_of_ok {action : Action} {text : String}
    (h : action.run registry = (.ok text, next)) (rest : List Action) :
    attached registry (action :: rest) = action.target ∪ attached next rest := by
  rw [attached, h]

theorem attached_cons_of_error {action : Action} {e : TemplateError}
    (h : action.run registry = (.error e, next)) (rest : List Action) :
    attached registry (action :: rest) = ∅ := by
  rw [attached, h]

/-! One action. -/

variable {action : Action} {text : String} {e : TemplateError}

theorem reattached_run (hlookup : action.isLookup = true)
    (hrun : action.run registry = (.ok text, next)) :
    registry.Reattached action.target next := by
  cases action with
  | literal text =>
      cases hrun
      exact Relation.ReflTransGen.refl
  | request key choice =>
      exact Registry.reattached_of_request (run_request_eq_ok_iff.mp hrun)
  | attach key choice =>
      obtain ⟨-, _, hrequest⟩ := run_attach_eq_ok_iff.mp hrun
      exact Registry.reattached_of_request hrequest
  | placeholder key =>
      cases hrun
      exact Relation.ReflTransGen.refl
  | provide key value => cases hlookup
  | substitute text => cases hlookup
  | size =>
      cases hrun
      exact Relation.ReflTransGen.refl

/-- An action that succeeds does so with more keys as well, though perhaps with another text. -/
theorem run_of_keys_subset (hlookup : action.isLookup = true)
    (hkeys : registry.keys ⊆ other.keys) (hrun : action.run registry = (.ok text, next)) :
    ∃ more second, action.run other = (.ok more, second) := by
  cases action with
  | literal text => exact ⟨_, _, rfl⟩
  | request key choice =>
      obtain ⟨answer, hanswer⟩ :=
        Registry.request_of_keys_subset hkeys (run_request_eq_ok_iff.mp hrun)
      exact ⟨_, _, run_request_eq_ok_iff.mpr hanswer⟩
  | attach key choice =>
      obtain ⟨-, _, hrequest⟩ := run_attach_eq_ok_iff.mp hrun
      obtain ⟨answer, hanswer⟩ := Registry.request_of_keys_subset hkeys hrequest
      exact ⟨_, _, run_attach_eq_ok_iff.mpr ⟨rfl, _, hanswer⟩⟩
  | placeholder key => exact ⟨_, _, rfl⟩
  | provide key value => cases hlookup
  | substitute text => cases hlookup
  | size => exact ⟨_, _, rfl⟩

theorem run_reattached_of_ok (hlookup : action.isLookup = true)
    (h : registry.Reattached keys other) (hrun : action.run registry = (.ok text, next)) :
    ∃ second, action.run other = (.ok text, second) ∧
      next.Reattached (keys \ action.target) second := by
  cases action with
  | literal text =>
      cases hrun
      exact ⟨other, rfl, Set.sdiff_empty.symm ▸ h⟩
  | request key choice =>
      obtain ⟨second, hsecond, hreattached⟩ := h.request (run_request_eq_ok_iff.mp hrun)
      exact ⟨second, run_request_eq_ok_iff.mpr hsecond, hreattached⟩
  | attach key choice =>
      obtain ⟨rfl, placeholder, hrequest⟩ := run_attach_eq_ok_iff.mp hrun
      obtain ⟨second, hsecond, hreattached⟩ := h.request hrequest
      exact ⟨second, run_attach_eq_ok_iff.mpr ⟨rfl, placeholder, hsecond⟩, hreattached⟩
  | placeholder key =>
      cases hrun
      refine ⟨other, ?_, Set.sdiff_empty.symm ▸ h⟩
      rw [run, h.placeholder_eq]
  | provide key value => cases hlookup
  | substitute text => cases hlookup
  | size =>
      cases hrun
      refine ⟨other, ?_, Set.sdiff_empty.symm ▸ h⟩
      rw [run, h.size_eq]

theorem run_reattached_of_error (hlookup : action.isLookup = true)
    (h : registry.Reattached keys other) (hrun : action.run registry = (.error e, next)) :
    action.run other = (.error e, other) := by
  cases action with
  | literal text => cases hrun
  | request key choice =>
      have hrequest := (run_request_eq_error_iff.mp hrun).1
      exact run_request_eq_error_iff.mpr ⟨Registry.request_error_congr h.mem_keys hrequest, rfl⟩
  | attach key choice =>
      have hrequest := (run_attach_eq_error_iff.mp hrun).1
      exact run_attach_eq_error_iff.mpr ⟨Registry.request_error_congr h.mem_keys hrequest, rfl⟩
  | placeholder key => cases hrun
  | provide key value => cases hlookup
  | substitute text => cases hlookup
  | size => cases hrun

/-! A whole body, by induction over its actions. -/

variable {actions : List Action}

theorem reattached_runAll (hlookup : ∀ action ∈ actions, action.isLookup = true) :
    registry.Reattached (attached registry actions) (runAll registry actions).2 := by
  induction actions generalizing registry with
  | nil => exact Relation.ReflTransGen.refl
  | cons action rest ih =>
      rw [List.forall_mem_cons] at hlookup
      cases hrun : action.run registry with
      | mk result next =>
          cases result with
          | error e =>
              obtain rfl := eq_of_run_error hrun
              rw [runAll_cons_of_error hrun]
          | ok text =>
              rw [runAll_cons_of_ok hrun, attached_cons_of_ok hrun]
              have hfirst := reattached_run hlookup.1 hrun
              have hrest : next.Reattached (attached next rest) (runAll next rest).2 := ih hlookup.2
              exact (hfirst.mono Set.subset_union_left).trans (hrest.mono Set.subset_union_right)

/-- With more keys a body gets at least as far. -/
theorem attached_subset (hlookup : ∀ action ∈ actions, action.isLookup = true)
    (hkeys : registry.keys ⊆ other.keys) : attached registry actions ⊆ attached other actions := by
  induction actions generalizing registry other with
  | nil => exact Set.Subset.rfl
  | cons action rest ih =>
      rw [List.forall_mem_cons] at hlookup
      cases hrun : action.run registry with
      | mk result next =>
          cases result with
          | error e =>
              rw [attached_cons_of_error hrun]
              exact Set.empty_subset _
          | ok text =>
              obtain ⟨more, second, hsecond⟩ := run_of_keys_subset hlookup.1 hkeys hrun
              rw [attached_cons_of_ok hrun, attached_cons_of_ok hsecond]
              have hnext : next.keys ⊆ second.keys := by
                rw [(reattached_run hlookup.1 hrun).keys_eq,
                  (reattached_run hlookup.1 hsecond).keys_eq]
                exact hkeys
              exact Set.union_subset_union_right _ (ih hlookup.2 hnext)

/-- Each action that succeeds on the way takes its key out of the set in which the registries may
still differ. -/
theorem runAll_reattached (hlookup : ∀ action ∈ actions, action.isLookup = true)
    (h : registry.Reattached keys other) :
    (runAll other actions).1 = (runAll registry actions).1 ∧
      (runAll registry actions).2.Reattached (keys \ attached registry actions)
        (runAll other actions).2 := by
  induction actions generalizing registry other keys with
  | nil => exact ⟨rfl, Set.sdiff_empty.symm ▸ h⟩
  | cons action rest ih =>
      rw [List.forall_mem_cons] at hlookup
      cases hrun : action.run registry with
      | mk result next =>
          cases result with
          | error e =>
              obtain rfl := eq_of_run_error hrun
              have hother := run_reattached_of_error hlookup.1 h hrun
              rw [runAll_cons_of_error hrun, runAll_cons_of_error hother,
                attached_cons_of_error hrun, Set.sdiff_empty]
              exact ⟨rfl, h⟩
          | ok text =>
              obtain ⟨second, hsecond, hreattached⟩ := run_reattached_of_ok hlookup.1 h hrun
              obtain ⟨hanswer, hlast⟩ := ih hlookup.2 hreattached
              rw [runAll_cons_of_ok hrun, runAll_cons_of_ok hsecond, attached_cons_of_ok hrun,
                hanswer]
              rw [Set.sdiff_sdiff] at hlast
              exact ⟨rfl, hlast⟩

/-- Where a body attaches transforms to all keys in question, it does not matter which transforms
they had. -/
theorem runAll_eq_of_reattached (hlookup : ∀ action ∈ actions, action.isLookup = true)
    (h : registry.Reattached keys other) (hkeys : keys ⊆ attached registry actions) :
    runAll other actions = runAll registry actions := by
  obtain ⟨hanswer, hlast⟩ := runAll_reattached hlookup h
  rw [Set.sdiff_eq_empty.mpr hkeys] at hlast
  exact Prod.ext hanswer hlast.eq_of_empty

end Action

namespace Instance

/-- The keys to which a compilation attaches transforms. It attaches none when it does not come as
far as the body. -/
def attached (inst : Instance) : Set String :=
  match inst.registry.ensureProvided with
  | .error _ => ∅
  | .ok _ => Action.attached inst.registry inst.template.body

theorem attached_of_provided {inst : Instance} (h : inst.registry.ensureProvided = .ok ()) :
    inst.attached = Action.attached inst.registry inst.template.body := by
  rw [attached, h]

theorem attached_of_missing {inst : Instance} {e : TemplateError}
    (h : inst.registry.ensureProvided = .error e) : inst.attached = ∅ := by
  rw [attached, h]

/-- Instances of one template whose registries differ in the transforms of some keys. -/
structure Reattached (keys : Set String) (inst twin : Instance) : Prop where
  template : twin.template = inst.template
  registry : inst.registry.Reattached keys twin.registry

variable {inst twin later : Instance}

theorem attached_subset (hlookup : ∀ action ∈ inst.template.body, action.isLookup = true)
    (htemplate : later.template = inst.template)
    (hedits : Registry.Edits inst.registry later.registry) : inst.attached ⊆ later.attached := by
  cases hensure : inst.registry.ensureProvided with
  | error e =>
      rw [attached_of_missing hensure]
      exact Set.empty_subset _
  | ok _ =>
      -- Keys are never taken away, so the later compilation comes as far as the body too.
      have hprovided := Registry.ensureProvided_eq_ok_iff.mp hensure
      have hlater : later.registry.ensureProvided = .ok () := by
        rw [Registry.ensureProvided_eq_ok_iff, hedits.declared_eq]
        exact fun declaration hmem => hedits.keys_subset (hprovided declaration hmem)
      rw [attached_of_provided hensure, attached_of_provided hlater, htemplate]
      exact Action.attached_subset hlookup hedits.keys_subset

theorem reattached_compile (hlookup : ∀ action ∈ inst.template.body, action.isLookup = true) :
    Reattached inst.attached inst inst.compile.2 := by
  refine ⟨by rw [compile_snd], ?_⟩
  cases hensure : inst.registry.ensureProvided with
  | error e =>
      rw [compile_of_missing hensure]
  | ok _ =>
      rw [compile_registry_of_provided hensure, attached_of_provided hensure]
      exact Action.reattached_runAll hlookup

/-- Instances that differ only in transforms that the body attaches anew compile alike. -/
theorem compile_eq_of_reattached (hlookup : ∀ action ∈ inst.template.body, action.isLookup = true)
    (h : Reattached keys inst twin) (hkeys : keys ⊆ inst.attached) :
    twin.compile.1 = inst.compile.1 ∧ twin.compile.2.registry = inst.compile.2.registry := by
  have hprovided := Registry.ensureProvided_congr h.registry.edits.declared_eq.symm
    h.registry.mem_keys
  cases hensure : inst.registry.ensureProvided with
  | error e =>
      rw [attached_of_missing hensure] at hkeys
      have hsame := (h.registry.mono hkeys).eq_of_empty
      rw [compile_of_missing hensure, compile_of_missing (hprovided ▸ hensure)]
      exact ⟨rfl, hsame⟩
  | ok _ =>
      rw [attached_of_provided hensure] at hkeys
      have hbody := Action.runAll_eq_of_reattached hlookup h.registry hkeys
      have htwin : twin.registry.ensureProvided = .ok () := hprovided ▸ hensure
      rw [compile_fst_of_provided htwin, compile_registry_of_provided htwin, h.template, hbody,
        compile_fst_of_provided hensure, compile_registry_of_provided hensure]
      exact ⟨rfl, rfl⟩

end Instance

/-! Steps between two compilations. -/

variable {m : Type → Type} [Monad m] [Files m]

namespace Step

/-- The steps that provide a value or attach a transform. -/
def isEdit : Step → Bool
  | .provide _ _ => true
  | .request _ _ => true
  | _ => false

variable {inst twin : Instance}

/-- Such a step answers both instances alike, and afterwards they differ no more than before. -/
theorem run_reattached {step : Step} (hedit : step.isEdit = true)
    (h : Instance.Reattached keys inst twin) :
    ∃ answer next second, (step.run inst : m _) = pure (answer, next) ∧
      (step.run twin : m _) = pure (answer, second) ∧ Instance.Reattached keys next second ∧
      next.template = inst.template ∧ Registry.Edits inst.registry next.registry := by
  cases step with
  | provide key value =>
      simp only [run, Instance.provide]
      cases hprovide : inst.registry.provide key value with
      | error e =>
          rw [Registry.provide_error_congr h.registry.edits.declared_eq.symm h.registry.mem_keys
            hprovide]
          exact ⟨_, _, _, rfl, rfl, h, rfl, Relation.ReflTransGen.refl⟩
      | ok next =>
          obtain ⟨second, hsecond, hreattached⟩ := h.registry.provide hprovide
          rw [hsecond]
          exact ⟨_, _, _, rfl, rfl, ⟨h.template, hreattached⟩, rfl,
            Relation.ReflTransGen.single (Registry.Edit.provide hprovide)⟩
  | request key choice =>
      simp only [run, Instance.request]
      cases hrequest : inst.registry.request key choice with
      | error e =>
          rw [Registry.request_error_congr h.registry.mem_keys hrequest]
          exact ⟨_, _, _, rfl, rfl, h, rfl, Relation.ReflTransGen.refl⟩
      | ok answer =>
          obtain ⟨second, hsecond, hreattached⟩ := h.registry.request hrequest
          rw [hsecond]
          exact ⟨_, _, _, rfl, rfl, ⟨h.template, hreattached.mono Set.sdiff_subset⟩, rfl,
            Registry.edits_of_request hrequest⟩
  | withMarker marker => cases hedit
  | compile => cases hedit
  | fileName | name | extension | fullName | writeSync _ | write _ | spawnWrite _ => cases hedit

variable [LawfulMonad m]

theorem runAll_append (inst : Instance) (steps more : List Step) :
    (runAll inst (steps ++ more) : m _) = do
      let (answers, next) ← runAll inst steps
      let (later, last) ← runAll next more
      return (answers ++ later, last) := by
  induction steps generalizing inst with
  | nil => simp [runAll]
  | cons step rest ih => simp [runAll, ih]

theorem runAll_compile_cons (inst : Instance) (rest : List Step) :
    (runAll inst (.compile :: rest) : m _) = do
      let (answers, last) ← runAll inst.compile.2 rest
      return (inst.compile.1.map .text :: answers, last) := by
  simp [runAll, run]

theorem runAll_append_compile {steps : List Step} {answers : List (Except TemplateError Answer)}
    {last : Instance} (h : (runAll inst steps : m _) = pure (answers, last)) :
    (runAll inst (steps ++ [.compile]) : m _) =
      pure (answers ++ [last.compile.1.map .text], last.compile.2) := by
  simp [runAll_append, h, runAll, run]

theorem runAll_reattached {steps : List Step} (hedits : ∀ step ∈ steps, step.isEdit = true)
    (h : Instance.Reattached keys inst twin) :
    ∃ answers last second, (runAll inst steps : m _) = pure (answers, last) ∧
      (runAll twin steps : m _) = pure (answers, second) ∧
      Instance.Reattached keys last second ∧
      last.template = inst.template ∧ Registry.Edits inst.registry last.registry := by
  induction steps generalizing inst twin with
  | nil => exact ⟨[], inst, twin, rfl, rfl, h, rfl, Relation.ReflTransGen.refl⟩
  | cons step rest ih =>
      rw [List.forall_mem_cons] at hedits
      obtain ⟨answer, next, nextTwin, hnext, hnextTwin, hreattached, htemplate, hstep⟩ :=
        run_reattached (m := m) hedits.1 h
      obtain ⟨answers, last, lastTwin, hlast, hlastTwin, hfinal, hsame, hrest⟩ :=
        ih hedits.2 hreattached
      refine ⟨answer :: answers, last, lastTwin, ?_, ?_, hfinal, hsame.trans htemplate,
        hstep.trans hrest⟩
      · simp [runAll, hnext, hlast]
      · simp [runAll, hnextTwin, hlastTwin]

end Step

namespace Instance

/-- Edits, then a compilation: the answers and the registry are those of the same steps after
another compilation, however far that one came. Compiling twice in a row is compiling once. -/
theorem compile_leaves_no_trace [LawfulMonad m] (inst : Instance) (steps : List Step)
    (hlookup : ∀ action ∈ inst.template.body, action.isLookup = true)
    (hedits : ∀ step ∈ steps, step.isEdit = true) :
    (∃ answers last direct again,
      (Step.runAll inst (steps ++ [.compile]) : m _) = pure (answers ++ [last], direct) ∧
      (Step.runAll inst (.compile :: (steps ++ [.compile])) : m _) =
        pure (inst.compile.1.map .text :: (answers ++ [last]), again) ∧
      again.registry = direct.registry) ∧
    inst.compile.2.compile = inst.compile := by
  have hcompiled := reattached_compile hlookup
  constructor
  · obtain ⟨answers, before, twin, hbefore, htwin, hreattached, htemplate, hgrown⟩ :=
      Step.runAll_reattached (m := m) hedits hcompiled
    obtain ⟨hanswer, hregistry⟩ := compile_eq_of_reattached (htemplate.symm ▸ hlookup) hreattached
      (attached_subset hlookup htemplate hgrown)
    refine ⟨answers, before.compile.1.map .text, before.compile.2, twin.compile.2,
      Step.runAll_append_compile hbefore, ?_, hregistry⟩
    rw [Step.runAll_compile_cons, Step.runAll_append_compile htwin, pure_bind, hanswer]
  · obtain ⟨hanswer, hregistry⟩ := compile_eq_of_reattached hlookup hcompiled Set.Subset.rfl
    refine Prod.ext hanswer ?_
    rw [compile_snd inst.compile.2, hanswer, hregistry, compile_snd inst]
    cases inst.compile.1 <;> rfl

/-- An instance whose body gives one value a transform before it asks for one that is missing. -/
def draft : Instance where
  template := ⟨"DraftTxt", [], .default, [.literal "head\n", .request "a" (.named "uppercase"),
    .request "b" .plain]⟩
  registry := ⟨"__", [], [("a", ⟨.string "x", none⟩)]⟩
  compiled := ""
  knownName := none
  namingCalls := 0

theorem draft_leaves_no_trace :
    draft.compile.1 = .error (.missingReplacer "b") ∧
      ∃ answers last direct again,
        (Step.runAll draft [.request "a" .plain, .provide "b" (.string "y"), .compile] :
          StateM Disk _) = pure (answers ++ [last], direct) ∧
        (Step.runAll draft [.compile, .request "a" .plain, .provide "b" (.string "y"), .compile] :
          StateM Disk _) = pure (.error (.missingReplacer "b") :: (answers ++ [last]), again) ∧
        again.registry = direct.registry := by
  have hfailed : draft.compile.1 = .error (.missingReplacer "b") := rfl
  have hsteps := (compile_leaves_no_trace (m := StateM Disk) draft
    [.request "a" .plain, .provide "b" (.string "y")] (by decide) (by decide)).1
  rw [hfailed] at hsteps
  exact ⟨hfailed, hsteps⟩

end Instance

end Stencil
