import Stencil.Command.Render
import Stencil.Config.Yaml
import Stencil.Pattern.Written

/-!
The commands: setting up a project, rendering, and printing the name of a file.
-/

namespace Stencil.Command

/-- Lines, each ended by a line feed. -/
def textOf (lines : List String) : String :=
  String.join (lines.map (· ++ "\n"))

/-- The configuration of a new project. -/
def sampleConfig : String :=
  textOf [
    "marker: \"__\"",
    "output: \"generated\"",
    "",
    "templates:",
    "  - identifier: UserControllerPhp",
    "    file: templates/controller.php",
    "    replacers:",
    "      class: \x7b value: \"user controller\", transform: pascalcase \x7d",
    "      table: users",
    "  - identifier: ReadmeTemplate",
    "    name: README",
    "    extension: md",
    "    body: |",
    "      # __project__",
    "    replacers:",
    "      project: MyProject"]

/-- The body file of a new project. -/
def sampleBody : String :=
  textOf [
    "<?php",
    "",
    "class __class__",
    "\x7b",
    "    const TABLE = '__table__';",
    "\x7d"]

variable {m : Type → Type} [Monad m] [Files m]

/-- Writes a sample project to a folder. -/
def init (folder : String) : m (Except Failure Unit) := do
  if !(← Files.makeFolders (Path.join folder "templates")) then return .error .refused
  else if !(← Files.writeText (Path.join folder "placard.yaml") sampleConfig) then
    return .error .refused
  else if !(← Files.writeText (Path.join folder "templates/controller.php") sampleBody) then
    return .error .refused
  else return .ok ()

/-- The file name of an identifier. -/
def nameOf (identifier : String) (suffix : Option String) : Except Failure String :=
  match FileName.derive identifier (suffix.getD FileName.defaultSuffix) FileName.keepSegments 0 with
  | .ok file => .ok file.full
  | .error e => .error (.noName identifier e)

/-- What a run shows: its exit code, the text on the standard output, and why it failed. -/
structure Report where
  code : Nat
  output : String
  failure : Option Failure
  deriving DecidableEq, Repr

def Report.of : Except Failure String → Report
  | .ok output => ⟨0, output, none⟩
  | .error failure => ⟨1, "", some failure⟩

/-- A short account of the command line. -/
def usage : String :=
  textOf [
    "Usage: placard [OPTIONS] [COMMAND]",
    "",
    "Commands:",
    "  init [PATH]                           Initialize a new project",
    "  render                                Render templates from the configuration",
    "  name <IDENTIFIER> [--suffix <SUFFIX>] Print the file name of an identifier",
    "",
    "Options:",
    "  -c, --config <CONFIG>    Path to the YAML configuration file",
    "  -o, --output <OUTPUT>    Output directory",
    "      --dry-run            Do not write files",
    "      --include <INCLUDE>  Include patterns on template identifiers",
    "      --exclude <EXCLUDE>  Exclude patterns on template identifiers"]

/-- The readers that come with the command line. -/
def Readers.builtIn : Readers where
  config := Config.ofYaml?
  expression := Pattern.Regex.reader

/-- Runs a task. -/
def perform (readers : Readers) : Task → m (Except Failure String)
  | .init folder => do return (← init folder).map fun _ => ""
  | .render options => do return (← render readers options).map fun _ => ""
  | .name identifier suffix => return (nameOf identifier suffix).map (· ++ "\n")

/-- Runs what the arguments ask for. Arguments that cannot be understood end with code two. -/
def run (readers : Readers) (args : List String) : m Report := do
  match Task.ofArgs args with
  | .ok task => return Report.of (← perform readers task)
  | .error .help => return ⟨0, usage, none⟩
  | .error .version => return ⟨0, "placard 0.1.0\n", none⟩
  | .error .usage => return ⟨2, "", none⟩

end Stencil.Command
