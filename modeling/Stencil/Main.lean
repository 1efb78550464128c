import Stencil.Command.Run

/-!
The program on the real file system.
-/

namespace Stencil

/-- Runs an action on files, and tells whether it went through. -/
def succeeds (action : IO Unit) : IO Bool := do
  match ← action.toBaseIO with
  | .ok () => return true
  | .error _ => return false

instance : Files IO where
  readText path := do
    match ← (IO.FS.readFile path).toBaseIO with
    | .ok text => return some text
    | .error _ => return none
  writeText path text := succeeds (IO.FS.writeFile path text)
  makeFolders path := if path.isEmpty then return true else succeeds (IO.FS.createDirAll path)

end Stencil

def main (args : List String) : IO UInt32 := do
  let report ← Stencil.Command.run Stencil.Command.Readers.builtIn args
  IO.print report.output
  match report.failure with
  | some failure => IO.eprintln ("Error: " ++ failure.message)
  | none => if report.code ≠ 0 then IO.eprint Stencil.Command.usage
  return UInt32.ofNat report.code
