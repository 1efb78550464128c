import Stencil.Instance
import Stencil.Output

/-!
Sessions: steps on one instance, each with an answer. A step that fails does not end the session;
the next one is run on the instance that it leaves.
-/

namespace Stencil

variable {m : Type → Type} [Monad m] [Files m]

namespace Instance

/-- Writes the compiled text to the file of the instance's name in a folder. Naming comes first and
may fail. -/
def writeSync (inst : Instance) (folder : String) :
    m (Except TemplateError String × Instance) :=
  match inst.fullName with
  | (.error e, next) => return (.error e, next)
  | (.ok full, next) => return (← deliver false folder full next.compiled, next)

/-- Starts a thread that writes the compiled text and calls `onDone` with the path or the fault.
The file is named and the text is taken before the thread is started. -/
def write {α : Type} (inst : Instance) (folder : String)
    (onDone : Except TemplateError String → m α) : Except TemplateError (Thread m α) × Instance :=
  let (full, next) := inst.fullName
  (full.map fun full => deliverThen false folder full next.compiled onDone, next)

/-- Starts a thread that writes the compiled text. Joining it gives the path or the fault. -/
def spawnWrite (inst : Instance) (folder : String) :
    Except TemplateError (Thread m (Except TemplateError String)) × Instance :=
  let (full, next) := inst.fullName
  (full.map fun full => deliver false folder full next.compiled, next)

end Instance

/-- Waits for the result of a thread, if it could be started. -/
def Thread.join {α : Type} :
    Except TemplateError (Thread m (Except TemplateError α)) → m (Except TemplateError α)
  | .error e => return .error e
  | .ok thread => thread

inductive Step where
  | withMarker (marker : String)
  | provide (key : String) (value : Value)
  | request (key : String) (choice : TransformChoice)
  | compile
  | fileName
  | name
  | extension
  | fullName
  | writeSync (folder : String)
  /-- Writes on a thread and waits until it has passed on what came of it. -/
  | write (folder : String)
  /-- Writes on a thread and joins it. -/
  | spawnWrite (folder : String)

/-- What a step that succeeds answers. -/
inductive Answer where
  | done
  | text (text : String)
  | file (file : FileName)
  | extension (extension : Option String)
  | path (path : String)
  deriving DecidableEq, Repr

/-- Keeps the instance when the operation failed. -/
def Instance.orKeep (inst : Instance) (result : Except TemplateError Instance) :
    Except TemplateError Answer × Instance :=
  match result with
  | .ok next => (.ok .done, next)
  | .error e => (.error e, inst)

/-- The answer of a step and the instance after it. -/
def Step.run (inst : Instance) : Step → m (Except TemplateError Answer × Instance)
  | .withMarker marker => return inst.orKeep (inst.withMarker marker)
  | .provide key value => return inst.orKeep (inst.provide key value)
  | .request key choice =>
    match inst.request key choice with
    | .ok (text, next) => return (.ok (.text text), next)
    | .error e => return (.error e, inst)
  | .compile =>
    let (result, next) := inst.compile
    return (result.map .text, next)
  | .fileName =>
    let (result, next) := inst.fileName
    return (result.map .file, next)
  | .name =>
    let (result, next) := inst.name
    return (result.map .text, next)
  | .extension =>
    let (result, next) := inst.extension
    return (result.map .extension, next)
  | .fullName =>
    let (result, next) := inst.fullName
    return (result.map .text, next)
  | .writeSync folder => do
    let (result, next) ← inst.writeSync folder
    return (result.map .path, next)
  | .write folder => do
    let (thread, next) := inst.write folder pure
    return ((← Thread.join thread).map .path, next)
  | .spawnWrite folder => do
    let (thread, next) := inst.spawnWrite folder
    return ((← Thread.join thread).map .path, next)

/-- The answers of all steps, in order, and the last instance. -/
def Step.runAll (inst : Instance) :
    List Step → m (List (Except TemplateError Answer) × Instance)
  | [] => return ([], inst)
  | step :: rest => do
    let (answer, next) ← step.run inst
    let (answers, last) ← runAll next rest
    return (answer :: answers, last)

end Stencil
