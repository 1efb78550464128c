import Stencil.Disk.Basic
import Stencil.Proofs.Instance.Compile
import Stencil.Proofs.Registry.Conformance
import Stencil.Session

/-!
The instances that a session can come to. A session runs on a file system, but what becomes of the
instance is decided by the steps alone, so a run is a fold over them. Each step is a row of changes
to the registry, whether it succeeds or fails, and whatever the body of a compiled template does.
What the registry promised at first it therefore promises at every point of a session.
-/

namespace Stencil

variable {inst : Instance}

/-- The instance that a step leaves. -/
def Step.next (inst : Instance) : Step → Instance
  | .withMarker marker => (inst.orKeep (inst.withMarker marker)).2
  | .provide key value => (inst.orKeep (inst.provide key value)).2
  | .request key choice => (inst.orKeep ((inst.request key choice).map (·.2))).2
  | .compile => inst.compile.2
  | .fileName | .name | .extension | .fullName => inst.fileName.2
  | .writeSync _ | .write _ | .spawnWrite _ => inst.fileName.2

/-- Whether a step names the file, to show the name or a part of it, or to write it. -/
def Step.namesFile : Step → Bool
  | .fileName | .name | .extension | .fullName => true
  | .writeSync _ | .write _ | .spawnWrite _ => true
  | .withMarker _ | .provide _ _ | .request _ _ | .compile => false

/-- The instance at the end of a session on a disk. -/
def Instance.after (inst : Instance) (disk : Disk) (steps : List Step) : Instance :=
  ((Step.runAll inst steps : StateM Disk _).run disk).1.2

namespace Instance

/-- Whether a file is written or not, writing only adds a file name to the instance. -/
theorem writeSync_snd (inst : Instance) (folder : String) (disk : Disk) :
    ((inst.writeSync folder : StateM Disk _).run disk).1.2 = inst.fileName.2 := by
  have hnext : inst.fullName.2 = inst.fileName.2 := rfl
  rw [writeSync, ← hnext]
  cases inst.fullName with
  | mk result next =>
      cases result with
      | error e => rfl
      | ok full => rfl

theorem fileName_registry (inst : Instance) : inst.fileName.2.registry = inst.registry := by
  rw [fileName]
  cases inst.knownName with
  | none => rfl
  | some file => rfl

theorem fileName_template (inst : Instance) : inst.fileName.2.template = inst.template := by
  rw [fileName]
  cases inst.knownName with
  | none => rfl
  | some file => rfl

theorem edits_compile (inst : Instance) :
    Registry.Edits inst.registry inst.compile.2.registry := by
  cases hprovided : inst.registry.ensureProvided with
  | error e =>
      rw [compile_of_missing hprovided]
  | ok _ =>
      rw [compile_registry_of_provided hprovided]
      exact Action.edits_runAll inst.registry inst.template.body

end Instance

namespace Step

theorem run_snd (inst : Instance) (disk : Disk) (step : Step) :
    ((step.run inst : StateM Disk _).run disk).1.2 = step.next inst := by
  cases step with
  | withMarker marker => rfl
  | provide key value => rfl
  | request key choice =>
      rw [run, next]
      cases inst.request key choice with
      | error e => rfl
      | ok answer => rfl
  | compile => rfl
  | fileName | name | extension | fullName => rfl
  | writeSync folder =>
      rw [run, next, StateT.run_bind]
      exact inst.writeSync_snd folder disk
  | write folder | spawnWrite folder => rfl

theorem next_of_namesFile {step : Step} (h : step.namesFile = true) :
    step.next inst = inst.fileName.2 := by
  cases step with
  | fileName | name | extension | fullName | writeSync _ | write _ | spawnWrite _ => rfl
  | withMarker marker => cases h
  | provide key value => cases h
  | request key choice => cases h
  | compile => cases h

/-- All other steps are about the registry and the compiled text. -/
theorem next_of_not_namesFile {step : Step} (h : step.namesFile = false) :
    step.next inst = { inst with
      registry := (step.next inst).registry
      compiled := (step.next inst).compiled } := by
  cases step with
  | withMarker marker =>
      rw [next, Instance.withMarker]
      cases inst.registry.withMarker marker <;> rfl
  | provide key value =>
      rw [next, Instance.provide]
      cases inst.registry.provide key value <;> rfl
  | request key choice =>
      rw [next, Instance.request]
      cases inst.registry.request key choice <;> rfl
  | compile => rw [next, Instance.compile_snd]
  | fileName | name | extension | fullName | writeSync _ | write _ | spawnWrite _ => cases h

theorem next_template (inst : Instance) (step : Step) :
    (step.next inst).template = inst.template := by
  cases hnames : step.namesFile with
  | false => rw [next_of_not_namesFile hnames]
  | true => rw [next_of_namesFile hnames, inst.fileName_template]

/-- Every step changes the registry in the ways in which registries change, if at all. -/
theorem changes_next (inst : Instance) (step : Step) :
    Registry.Changes inst.registry (step.next inst).registry := by
  have hsame : Registry.Changes inst.registry inst.registry := Relation.ReflTransGen.refl
  cases step with
  | withMarker marker =>
      rw [next, Instance.withMarker]
      cases h : inst.registry.withMarker marker with
      | error e => exact hsame
      | ok registry => exact hsame.tail (Registry.Change.marker h)
  | provide key value =>
      rw [next, Instance.provide]
      cases h : inst.registry.provide key value with
      | error e => exact hsame
      | ok registry => exact hsame.tail (Registry.Change.edit (Registry.Edit.provide h))
  | request key choice =>
      rw [next, Instance.request]
      cases h : inst.registry.request key choice with
      | error e => exact hsame
      | ok answer => exact (Registry.edits_of_request h).changes
  | compile => exact inst.edits_compile.changes
  | fileName | name | extension | fullName | writeSync _ | write _ | spawnWrite _ =>
      rw [next, inst.fileName_registry]

end Step

namespace Instance

theorem after_eq_foldl (inst : Instance) (disk : Disk) (steps : List Step) :
    inst.after disk steps = steps.foldl Step.next inst := by
  induction steps generalizing inst disk with
  | nil => rfl
  | cons step rest ih =>
      have hfirst := Step.run_snd inst disk step
      have hrest := ih (step.next inst) ((step.run inst : StateM Disk _).run disk).2
      rw [List.foldl_cons, ← hrest, ← hfirst]
      rfl

/-- A session in two parts is a session. The disk of the second part may be any. -/
theorem after_append (inst : Instance) (disk other : Disk) (steps more : List Step) :
    inst.after disk (steps ++ more) = (inst.after disk steps).after other more := by
  rw [after_eq_foldl, after_eq_foldl, after_eq_foldl, List.foldl_append]

theorem after_append_singleton (inst : Instance) (disk : Disk) (steps : List Step) (step : Step) :
    inst.after disk (steps ++ [step]) = step.next (inst.after disk steps) := by
  rw [after_eq_foldl, after_eq_foldl, List.foldl_append, List.foldl_cons, List.foldl_nil]

/-- What holds at first and is kept by each step of a session holds at its end. -/
theorem after_induction {motive : Instance → Prop} {steps : List Step} (disk : Disk)
    (hkeep : ∀ step ∈ steps, ∀ inst, motive inst → motive (step.next inst))
    (hstart : motive inst) : motive (inst.after disk steps) := by
  rw [after_eq_foldl]
  induction steps generalizing inst with
  | nil => exact hstart
  | cons step rest ih =>
      rw [List.forall_mem_cons] at hkeep
      exact ih hkeep.2 (hkeep.1 inst hstart)

theorem changes_after (inst : Instance) (disk : Disk) (steps : List Step) :
    Registry.Changes inst.registry (inst.after disk steps).registry := by
  refine after_induction (motive := fun last => Registry.Changes inst.registry last.registry) disk
    ?_ Relation.ReflTransGen.refl
  intro step _ middle hmiddle
  exact hmiddle.trans (step.changes_next middle)

theorem after_template (inst : Instance) (disk : Disk) (steps : List Step) :
    (inst.after disk steps).template = inst.template := by
  refine after_induction (motive := fun last => last.template = inst.template) disk ?_ rfl
  intro step _ middle hmiddle
  exact (step.next_template middle).trans hmiddle

/-- After a compilation that succeeds the keys of a registry with declarations are the declared
ones: those declared have to be there before the body runs, and others are never let in. -/
theorem keys_of_compile_ok {text : String} (hregistry : inst.registry.Conforms)
    (hdeclared : inst.registry.declared ≠ []) (hcompile : inst.compile.1 = .ok text)
    (key : String) :
    key ∈ inst.compile.2.registry.keys ↔ key ∈ inst.registry.declared.map (·.key) := by
  have hedits := inst.edits_compile
  have hconforms := hedits.changes.conforms hregistry
  constructor
  · intro hkey
    rw [← hedits.declared_eq] at hdeclared ⊢
    exact hconforms.key_declared hdeclared hkey
  · intro hkey
    obtain ⟨declaration, hmem, rfl⟩ := List.mem_map.mp hkey
    cases hprovided : inst.registry.ensureProvided with
    | error e =>
        rw [compile_of_missing hprovided] at hcompile
        cases hcompile
    | ok _ =>
        exact hedits.keys_subset (Registry.ensureProvided_eq_ok_iff.mp hprovided declaration hmem)

/-- The registry of a template at every point of every session, from the fresh instance on. Its
marker is not empty; its keys are different identifiers; where the template declares keys, only
these are there and with values of the declared kind; what was provided before some point is still
there, in the same order, at any later point. A compilation that succeeds leaves exactly the
declared keys. -/
theorem registry_conforms (template : Template) (disk : Disk) (steps more : List Step) :
    let inst := (new template).after disk steps
    let later := (new template).after disk (steps ++ more)
    inst.registry.declared = template.declared ∧ inst.registry.Conforms ∧
      inst.registry.pairs <+: later.registry.pairs ∧
      ∀ text, inst.compile.1 = .ok text → template.declared ≠ [] → ∀ key,
        key ∈ inst.compile.2.registry.keys ↔ key ∈ template.declared.map (·.key) := by
  intro inst later
  have hchanges : Registry.Changes (new template).registry inst.registry :=
    changes_after (new template) disk steps
  have hdeclared : inst.registry.declared = template.declared := hchanges.declared_eq
  have hconforms : inst.registry.Conforms :=
    hchanges.conforms (Registry.conforms_new (by decide) template.declared)
  have hlater : Registry.Changes inst.registry later.registry := by
    have h := changes_after inst disk more
    rwa [← after_append (new template) disk disk steps more] at h
  refine ⟨hdeclared, hconforms, hlater.pairs_prefix, ?_⟩
  intro text hcompile hne key
  rw [← hdeclared] at hne ⊢
  exact keys_of_compile_ok hconforms hne hcompile key

/-- A template that declares a key twice. Values of the second kind are refused. -/
def greeting : Template :=
  ⟨"GreetingTxt", [⟨"name", .string⟩, ⟨"name", .bool⟩], .default,
    [.literal "\nHello ", .request "name" .plain, .literal "!"]⟩

theorem greeting_conforms :
    let inst := (new greeting).after (Disk.empty []) [.provide "name" (.bool true),
      .withMarker "", .provide "name" (.string "Ada"), .withMarker "%"]
    inst.compile.1 = .ok "Hello Ada!\n" ∧ greeting.declared ≠ [] ∧
      ∀ key, key ∈ inst.compile.2.registry.keys ↔ key ∈ ["name", "name"] := by
  intro inst
  let registry : Registry := ⟨"%", greeting.declared, [("name", ⟨.string "Ada", none⟩)]⟩
  have hregistry : registry.WellFormed := ⟨by decide, by decide, by decide⟩
  have hall : registry.AllRender := by
    intro entry hentry
    obtain rfl := List.mem_singleton.mp hentry
    exact ⟨"Ada", rfl⟩
  have hsubstitute : registry.substitute (dedent "\nHello %name%!") = .ok "Hello Ada!\n" := by
    rw [Registry.substitute_eq_ok hregistry hall]
    decide +kernel
  have hbody : Action.runAll inst.registry greeting.body = (.ok "\nHello %name%!", registry) := rfl
  have hcompile : inst.compile.1 = .ok "Hello Ada!\n" := by
    rw [compile_of_substitute_ok rfl hbody hsubstitute]
  have hdeclared : greeting.declared ≠ [] := by decide
  obtain ⟨-, -, -, hkeys⟩ := registry_conforms greeting (Disk.empty []) [
    .provide "name" (.bool true), .withMarker "", .provide "name" (.string "Ada"),
    .withMarker "%"] []
  exact ⟨hcompile, hdeclared, hkeys _ hcompile hdeclared⟩

end Instance

end Stencil
