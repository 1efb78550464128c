import Stencil.Proofs.Disk.Location
import Stencil.Proofs.FileName.Derivation
import Stencil.Proofs.Session.Reachable

/-!
One file name for each instance. Asking for the name, asking for a part of it and writing the file,
at once or on a thread, all begin by naming the file. The first attempt that succeeds is kept, and
from there on nothing in a session changes the name or asks the template for it. An attempt that
fails keeps only the number of calls that it made, so the next one is made anew; with a filter or a
template that answers differently from call to call it may succeed.
-/

namespace Stencil

variable {inst : Instance} {template : Template} {step : Step} {file : FileName}
  {e : TemplateError}

/-- The attempt to name the file that comes after `failures` others, when all of these have failed:
each of them has called the filter, or asked the template. -/
def Template.attempt (template : Template) (failures : Nat) : Except TemplateError FileName :=
  template.fileName (failures * template.callsPerNaming)

/-- An attempt to name the file fails because the template answers so, or because the name would be
empty. -/
theorem Template.answered_or_emptyName {calls : Nat} (h : template.fileName calls = .error e) :
    (∃ answer, template.naming = .answered answer ∧ answer (calls + 1) = .error e) ∨
      ∃ identifier, e = .emptyName identifier := by
  rw [fileName] at h
  cases hnaming : template.naming with
  | given name extension =>
      simp only [hnaming, FileName.given] at h
      split at h
      · exact Or.inr ⟨name, (Except.error.inj h).symm⟩
      · cases h
  | derived suffix filter extension =>
      simp only [hnaming] at h
      by_cases hnameless : FileName.Nameless template.identifier suffix filter calls
      · rw [FileName.derive_of_nameless hnameless] at h
        exact Or.inr ⟨template.identifier, (Except.error.inj h).symm⟩
      · rw [FileName.derive_of_not_nameless hnameless] at h
        cases h
  | answered answer =>
      simp only [hnaming] at h
      exact Or.inl ⟨answer, rfl, h⟩

/-- What writing a text to a path answers, and the disk after it. -/
def Disk.written (disk : Disk) (path text : String) : Except TemplateError String × Disk :=
  match disk.write? path text.toUTF8 with
  | some next => (.ok path, next)
  | none => (.error (.unwritable path), disk)

theorem Disk.run_deliver_eq_written (disk : Disk) (folder name text : String) :
    (deliver false folder name text : StateM Disk _).run disk =
      disk.written (Path.join folder name) text := by
  rw [run_deliver, if_neg Bool.false_ne_true]
  rfl

namespace Instance

/-- All ways to the file name come to the same: the name and its parts are shown as `result` has
them, the file is written under the full name in the folder, and where there is no name all of
them fail with the same error. They leave the same instance. A thread writes what was compiled when
it was started, on whatever the disk is when it is run, and tells what came of it. -/
structure NamesAs (inst : Instance) (result : Except TemplateError FileName) (next : Instance) :
    Prop where
  fileName_eq : inst.fileName = (result, next)
  name_eq : inst.name = (result.map (·.name), next)
  extension_eq : inst.extension = (result.map (·.extension), next)
  fullName_eq : inst.fullName = (result.map (·.full), next)
  writeSync_error (e : TemplateError) (folder : String) (disk : Disk) : result = .error e →
    (inst.writeSync folder : StateM Disk _).run disk = ((.error e, next), disk)
  writeSync_ok (file : FileName) (folder : String) (disk : Disk) : result = .ok file →
    let (answer, last) := disk.written (Path.join folder file.full) next.compiled
    (inst.writeSync folder : StateM Disk _).run disk = ((answer, next), last)
  write_error {α : Type} (e : TemplateError) (folder : String)
      (onDone : Except TemplateError String → StateM Disk α) : result = .error e →
    inst.write folder onDone = (.error e, next)
  write_ok {α : Type} (file : FileName) (folder : String)
      (onDone : Except TemplateError String → StateM Disk α) : result = .ok file →
    ∃ thread, inst.write folder onDone = (.ok thread, next) ∧ ∀ disk : Disk,
      let (answer, last) := disk.written (Path.join folder file.full) next.compiled
      StateT.run thread disk = (onDone answer).run last
  spawnWrite_error (e : TemplateError) (folder : String) : result = .error e →
    inst.spawnWrite (m := StateM Disk) folder = (.error e, next)
  spawnWrite_ok (file : FileName) (folder : String) : result = .ok file →
    ∃ thread, inst.spawnWrite (m := StateM Disk) folder = (.ok thread, next) ∧ ∀ disk : Disk,
      StateT.run thread disk = disk.written (Path.join folder file.full) next.compiled

theorem fullName_eq (inst : Instance) :
    inst.fullName = (inst.fileName.1.map (·.full), inst.fileName.2) :=
  rfl

theorem namesAs_fileName (inst : Instance) :
    inst.NamesAs inst.fileName.1 inst.fileName.2 where
  fileName_eq := rfl
  name_eq := rfl
  extension_eq := rfl
  fullName_eq := rfl
  writeSync_error e folder disk h := by
    rw [writeSync, fullName_eq, h]
    rfl
  writeSync_ok file folder disk h := by
    rw [writeSync, fullName_eq, h]
    dsimp only [Except.map]
    rw [StateT.run_bind, Disk.run_deliver_eq_written]
    rfl
  write_error e folder onDone h := by
    rw [write, fullName_eq, h]
    rfl
  write_ok file folder onDone h := by
    refine ⟨deliverThen false folder file.full inst.fileName.2.compiled onDone, ?_, ?_⟩
    · rw [write, fullName_eq, h]
      rfl
    · intro disk
      dsimp only
      rw [deliverThen, StateT.run_bind, Disk.run_deliver_eq_written]
      rfl
  spawnWrite_error e folder h := by
    rw [spawnWrite, fullName_eq, h]
    rfl
  spawnWrite_ok file folder h := by
    refine ⟨deliver false folder file.full inst.fileName.2.compiled, ?_, fun disk => ?_⟩
    · rw [spawnWrite, fullName_eq, h]
      rfl
    · exact disk.run_deliver_eq_written folder file.full _

end Instance

namespace Step

/-- What a step that names the file answers when the name is found, and the disk after it: the name
or a part of it, or the path that the text is written to. -/
def shown? (disk : Disk) (text : String) (file : FileName) :
    Step → Option (Except TemplateError Answer × Disk)
  | .fileName => some (.ok (.file file), disk)
  | .name => some (.ok (.text file.name), disk)
  | .extension => some (.ok (.extension file.extension), disk)
  | .fullName => some (.ok (.text file.full), disk)
  | .writeSync folder | .write folder | .spawnWrite folder =>
    let (result, last) := disk.written (Path.join folder file.full) text
    some (result.map .path, last)
  | .withMarker _ | .provide _ _ | .request _ _ | .compile => none

theorem isSome_shown? (disk : Disk) (text : String) (file : FileName) (step : Step) :
    (step.shown? disk text file).isSome = step.namesFile := by
  cases step <;> rfl

theorem run_of_shown? {next : Instance} {disk last : Disk} {answer : Except TemplateError Answer}
    (h : inst.NamesAs (.ok file) next)
    (hshown : step.shown? disk next.compiled file = some (answer, last)) :
    (step.run inst : StateM Disk _).run disk = ((answer, next), last) := by
  cases step with
  | fileName =>
      cases hshown
      rw [run, h.fileName_eq]
      rfl
  | name =>
      cases hshown
      rw [run, h.name_eq]
      rfl
  | extension =>
      cases hshown
      rw [run, h.extension_eq]
      rfl
  | fullName =>
      cases hshown
      rw [run, h.fullName_eq]
      rfl
  | writeSync folder =>
      cases hshown
      rw [run, StateT.run_bind, h.writeSync_ok file folder disk rfl]
      rfl
  | write folder =>
      cases hshown
      obtain ⟨thread, hthread, hrun⟩ := h.write_ok file folder pure rfl
      rw [run, hthread]
      dsimp only [Thread.join]
      rw [StateT.run_bind, hrun]
      rfl
  | spawnWrite folder =>
      cases hshown
      obtain ⟨thread, hthread, hrun⟩ := h.spawnWrite_ok file folder rfl
      rw [run, hthread]
      dsimp only [Thread.join]
      rw [StateT.run_bind, hrun]
      rfl
  | withMarker marker => cases hshown
  | provide key value => cases hshown
  | request key choice => cases hshown
  | compile => cases hshown

/-- Every step that names the file answers what it should. -/
theorem exists_shown {next : Instance} (h : inst.NamesAs (.ok file) next)
    (hnames : step.namesFile = true) (disk : Disk) :
    ∃ answer last, step.shown? disk next.compiled file = some (answer, last) ∧
      (step.run inst : StateM Disk _).run disk = ((answer, next), last) := by
  rw [← isSome_shown? disk next.compiled file, Option.isSome_iff_exists] at hnames
  obtain ⟨⟨answer, last⟩, hshown⟩ := hnames
  exact ⟨answer, last, hshown, run_of_shown? h hshown⟩

end Step

namespace Instance

theorem fileName_of_known (h : inst.knownName = some file) : inst.fileName = (.ok file, inst) := by
  rw [fileName, h]

theorem fileName_fst_of_unknown (h : inst.knownName = none) :
    inst.fileName.1 = inst.template.fileName inst.namingCalls := by
  rw [fileName, h]

theorem knownName_of_ok (h : inst.fileName.1 = .ok file) :
    inst.fileName.2.knownName = some file := by
  cases hknown : inst.knownName with
  | some other =>
      rw [fileName_of_known hknown] at h ⊢
      rw [hknown, Except.ok.inj h]
  | none =>
      have hfound := fileName_fst_of_unknown hknown
      rw [fileName, hknown]
      simp [← hfound, h, Except.toOption]

/-- An attempt can only fail where nothing is known. It counts the calls that it made and keeps
nothing else. -/
theorem fileName_of_error (h : inst.fileName.1 = .error e) :
    inst.knownName = none ∧ inst.template.fileName inst.namingCalls = .error e ∧
      inst.fileName.2 =
        { inst with namingCalls := inst.namingCalls + inst.template.callsPerNaming } := by
  cases hknown : inst.knownName with
  | some file =>
      rw [fileName_of_known hknown] at h
      cases h
  | none =>
      have hfault := fileName_fst_of_unknown hknown
      rw [h] at hfault
      refine ⟨rfl, hfault.symm, ?_⟩
      rw [fileName, hknown]
      simp [← hfault, ← hknown, Except.toOption]

end Instance

namespace Step

theorem naming_next_of_not_namesFile (inst : Instance) (h : step.namesFile = false) :
    (step.next inst).knownName = inst.knownName ∧
      (step.next inst).namingCalls = inst.namingCalls := by
  rw [next_of_not_namesFile h]
  exact ⟨rfl, rfl⟩

/-- Once the name is known a step that names the file leaves the instance as it is, and the others
have nothing to do with the name. -/
theorem naming_next_of_known (h : inst.knownName = some file) :
    (step.next inst).knownName = some file ∧
      (step.next inst).namingCalls = inst.namingCalls := by
  cases hnames : step.namesFile with
  | false =>
      obtain ⟨hknown, hcalls⟩ := naming_next_of_not_namesFile inst hnames
      exact ⟨hknown.trans h, hcalls⟩
  | true =>
      rw [next_of_namesFile hnames, Instance.fileName_of_known h]
      exact ⟨h, rfl⟩

end Step

namespace Instance

theorem naming_after_of_known (h : inst.knownName = some file) (disk : Disk) (steps : List Step) :
    (inst.after disk steps).knownName = some file ∧
      (inst.after disk steps).namingCalls = inst.namingCalls := by
  refine after_induction (motive := fun last => last.knownName = some file ∧
    last.namingCalls = inst.namingCalls) disk ?_ ⟨h, rfl⟩
  intro step _ middle ⟨hknown, hcalls⟩
  obtain ⟨hnext, hsame⟩ := step.naming_next_of_known hknown
  exact ⟨hnext, hsame.trans hcalls⟩

/-- As long as every attempt fails, each of them is made anew. -/
theorem naming_after_of_failures (template : Template) (disk : Disk) (steps : List Step)
    (h : ∀ failures < steps.countP (·.namesFile), ∃ e, template.attempt failures = .error e) :
    ((new template).after disk steps).knownName = none ∧
      ((new template).after disk steps).namingCalls =
        steps.countP (·.namesFile) * template.callsPerNaming := by
  induction steps using List.reverseRecOn with
  | nil => exact ⟨rfl, (Nat.zero_mul _).symm⟩
  | append_singleton steps step ih =>
      have hcount : (steps ++ [step]).countP (·.namesFile) =
          steps.countP (·.namesFile) + if step.namesFile then 1 else 0 := by
        rw [List.countP_append, List.countP_singleton]
      obtain ⟨hknown, hcalls⟩ := ih fun failures hfailures => h failures (by omega)
      rw [after_append_singleton, hcount]
      cases hnames : step.namesFile with
      | false =>
          obtain ⟨hnext, hsame⟩ :=
            Step.naming_next_of_not_namesFile ((new template).after disk steps) hnames
          exact ⟨hnext.trans hknown, hsame.trans hcalls⟩
      | true =>
          rw [hnames] at hcount
          obtain ⟨e, hfault⟩ := h (steps.countP (·.namesFile)) (by rw [hcount]; simp)
          have htemplate := after_template (new template) disk steps
          have hfirst := fileName_fst_of_unknown hknown
          rw [htemplate, hcalls] at hfirst
          obtain ⟨-, -, hnext⟩ := fileName_of_error (hfirst.trans hfault)
          rw [Step.next_of_namesFile hnames, hnext, htemplate, hcalls]
          exact ⟨hknown, (Nat.succ_mul _ _).symm⟩

/-- One file name for each instance, at every point of every session. Whichever way is taken to the
name, it comes to what `fileName` finds. Once that is a name, all ways to it, after any steps that
succeed or fail, show the parts of this same name or write under it, also as steps of the session,
and neither the filter nor the template is called again. An attempt fails for want of a name, or
because a template that answers for itself says so. It leaves nothing known, so as long as all
attempts have failed the next one is made anew, on a filter that all of them have called. -/
theorem file_named_once (template : Template) (disk : Disk) (steps : List Step) :
    let inst := (new template).after disk steps
    let next := inst.fileName.2
    let failures := steps.countP (·.namesFile)
    inst.NamesAs inst.fileName.1 next ∧
      (∀ file, inst.fileName.1 = .ok file → ∀ (other : Disk) (more : List Step),
        let later := next.after other more
        later.NamesAs (.ok file) later ∧ later.namingCalls = next.namingCalls ∧
          ∀ (step : Step) (current : Disk), step.namesFile = true → ∃ answer last,
            step.shown? current later.compiled file = some (answer, last) ∧
            (step.run later : StateM Disk _).run current = ((answer, later), last)) ∧
      (∀ e, inst.fileName.1 = .error e →
        ((∃ answer, template.naming = .answered answer ∧
            answer (inst.namingCalls + 1) = .error e) ∨
          ∃ identifier, e = .emptyName identifier) ∧ next.knownName = none ∧
          next.namingCalls = inst.namingCalls + template.callsPerNaming) ∧
      ((∀ earlier < failures, ∃ e, template.attempt earlier = .error e) →
        inst.fileName.1 = template.attempt failures) := by
  intro inst next failures
  have htemplate : inst.template = template := after_template (new template) disk steps
  refine ⟨inst.namesAs_fileName, ?_, ?_, ?_⟩
  · intro file hfound other more later
    have hknown : next.knownName = some file := knownName_of_ok hfound
    obtain ⟨hlater, hcalls⟩ := naming_after_of_known hknown other more
    have hnames := later.namesAs_fileName
    rw [fileName_of_known hlater] at hnames
    exact ⟨hnames, hcalls, fun step current hstep => step.exists_shown hnames hstep current⟩
  · intro e hfailed
    obtain ⟨hunknown, hfault, hsnd⟩ := fileName_of_error hfailed
    have hnext : next =
        { inst with namingCalls := inst.namingCalls + template.callsPerNaming } := by
      rw [← htemplate]
      exact hsnd
    rw [htemplate] at hfault
    rw [hnext]
    exact ⟨Template.answered_or_emptyName hfault, hunknown, rfl⟩
  · intro hfailures
    obtain ⟨hunknown, hcalls⟩ := naming_after_of_failures template disk steps hfailures
    have hattempt := fileName_fst_of_unknown hunknown
    rwa [htemplate, hcalls] at hattempt

/-- A template whose filter leaves nothing at its first call and numbers the calls after that. -/
def numbered : Template :=
  ⟨"NotesTxt", [], .derived FileName.defaultSuffix
    (fun call segment => if call = 1 then "" else segment ++ toString call) none,
    [.literal "\nText"]⟩

/-- The first attempt fails. The second one gives the name that the file is written under, however
often it is asked for and whatever fails in between. -/
theorem file_named_once_numbered :
    let inst := (new numbered).after (Disk.empty []) [.fullName, .provide "2nd" .null]
    let later := inst.fileName.2.after (Disk.empty [])
      [.spawnWrite "missing", .withMarker "", .compile, .name, .write "missing"]
    numbered.attempt 0 = .error (.emptyName "NotesTxt") ∧
      inst.fileName.1 = .ok ⟨"notes2", some "txt"⟩ ∧
      later.NamesAs (.ok ⟨"notes2", some "txt"⟩) later ∧ later.namingCalls = 2 ∧
      (Step.extension.run later : StateM Disk _).run (Disk.empty []) =
        ((.ok (.extension (some "txt")), later), Disk.empty []) := by
  intro inst later
  have hfirst : numbered.attempt 0 = .error (.emptyName "NotesTxt") := rfl
  have hsecond : numbered.attempt 1 = .ok ⟨"notes2", some "txt"⟩ := rfl
  obtain ⟨-, hsettled, -, hattempt⟩ := file_named_once numbered (Disk.empty [])
    [.fullName, .provide "2nd" .null]
  have hfound : inst.fileName.1 = .ok ⟨"notes2", some "txt"⟩ := by
    rw [← hsecond]
    apply hattempt
    intro earlier hearlier
    obtain rfl : earlier = 0 := Nat.lt_one_iff.mp hearlier
    exact ⟨_, hfirst⟩
  obtain ⟨hlater, hcalls, hsteps⟩ := hsettled _ hfound (Disk.empty [])
    [.spawnWrite "missing", .withMarker "", .compile, .name, .write "missing"]
  obtain ⟨answer, last, hshown, hrun⟩ := hsteps .extension (Disk.empty []) rfl
  cases hshown
  exact ⟨hfirst, hfound, hlater, hcalls, hrun⟩

end Instance

end Stencil
