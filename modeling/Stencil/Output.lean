import Stencil.Error
import Stencil.Disk.Files
import Stencil.Disk.Path

/-!
Where compiled texts go: a file in a folder that already exists. Writing may be left to a thread.
-/

namespace Stencil

variable {m : Type → Type} [Monad m] [Files m]

/-- Writes a text to the file `name` in a folder and gives its path. A dry run only gives the
path. -/
def deliver (dryRun : Bool) (folder name text : String) : m (Except TemplateError String) := do
  let path := Path.join folder name
  if dryRun then return .ok path
  else if ← Files.writeText path text then return .ok path
  else return .error (.unwritable path)

/-- What a thread does. It is done at some time after the thread was started, at the latest when the
thread is joined, which gives the result. -/
abbrev Thread (m : Type → Type) (α : Type) :=
  m α

/-- The thread that writes a text and goes on with the path or the fault. -/
def deliverThen {α : Type} (dryRun : Bool) (folder name text : String)
    (onDone : Except TemplateError String → m α) : Thread m α := do
  onDone (← deliver dryRun folder name text)

end Stencil
