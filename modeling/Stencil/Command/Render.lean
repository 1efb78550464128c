import Stencil.Command.Args
import Stencil.Config.Basic
import Stencil.Pattern.Basic
import Stencil.Output

/-!
Rendering a configuration: the selected entries are instantiated, compiled, named and written one
after the other, and the first that fails ends the run.
-/

namespace Stencil.Command

/-- Why a run fails: what could not be done, and what kept it from being done. -/
inductive Failure where
  | noName (identifier : String) (cause : TemplateError)
  | noConfig
  | notLoaded (cause : ConfigError)
  | noFolder (path : String)
  | notPrepared (identifier : String) (cause : ConfigError)
  | notCompiled (identifier : String) (cause : TemplateError)
  | notNamed (cause : TemplateError)
  | notWritten (identifier : String) (cause : TemplateError)
  /-- The file system refused, and nothing more is said. -/
  | refused
  deriving DecidableEq, Repr

/-- The message of a failure, without its cause. -/
def Failure.message : Failure → String
  | .noName identifier _ => "Failed to derive a name from " ++ identifier
  | .noConfig => "--config is required"
  | .notLoaded _ => "Failed to load config"
  | .noFolder path => "Failed to create output directory " ++ Text.quotedStrictly path
  | .notPrepared identifier _ => "Failed to prepare template " ++ identifier
  | .notCompiled identifier _ => "Failed to compile template " ++ identifier
  | .notNamed cause => cause.message
  | .notWritten identifier _ => "Failed to write template " ++ identifier
  | .refused => "The file system refused"

/-- A configuration with the places and choices of a run. -/
structure Job where
  config : Config
  /-- The folder that body files are relative to. -/
  folder : String
  output : String
  dryRun : Bool
  included : List Pattern
  excluded : List Pattern

namespace Job

/-- Whether an entry takes part: it is enabled, and its identifier is not passed over. -/
def selects (job : Job) (entry : Entry) : Bool :=
  entry.enabled && !Pattern.skips job.included job.excluded entry.identifier

/-- The file name and the text that the instance of an entry gives. -/
def product (entry : Entry) (inst : Instance) : Except Failure (FileName × String) :=
  match inst.compile with
  | (.error e, _) => .error (.notCompiled entry.identifier e)
  | (.ok text, inst) =>
    match inst.fileName with
    | (.error e, _) => .error (.notNamed e)
    | (.ok file, _) => .ok (file, text)

variable {m : Type → Type} [Monad m] [Files m]

/-- The file name and the text of an entry. -/
def produce (job : Job) (entry : Entry) : m (Except Failure (FileName × String)) := do
  match ← entry.instantiate job.folder job.config.marker with
  | .error e => return .error (.notPrepared entry.identifier e)
  | .ok inst => return product entry inst

/-- Produces an entry and writes it. -/
def renderEntry (job : Job) (entry : Entry) : m (Except Failure Unit) := do
  match ← job.produce entry with
  | .error e => return .error e
  | .ok (file, text) =>
    match ← deliver job.dryRun job.output file.full text with
    | .error e => return .error (.notWritten entry.identifier e)
    | .ok _ => return .ok ()

/-- Renders the selected ones of several entries in order, up to the first failure. -/
def renderEntries (job : Job) : List Entry → m (Except Failure Unit)
  | [] => return .ok ()
  | entry :: rest => do
    if job.selects entry then
      match ← job.renderEntry entry with
      | .error e => return .error e
      | .ok () => job.renderEntries rest
    else job.renderEntries rest

/-- Makes the output folder, unless nothing is to be written, and renders all entries. -/
def run (job : Job) : m (Except Failure Unit) := do
  let ready ← if job.dryRun then pure true else Files.makeFolders job.output
  if ready then job.renderEntries job.config.entries
  else return .error (.noFolder job.output)

end Job

/-- What a run leaves to others: reading configurations, and reading expressions in patterns. -/
structure Readers where
  config : Config.Reader
  expression : Pattern.Reader

/-- The job of a configuration at a path. The output folder given on the command line is taken as
it is, the configured one is relative to the configuration. -/
def Job.of (readers : Readers) (options : Options) (path : String) (config : Config) : Job :=
  let folder := Path.folder path
  { config := config
    folder := folder
    output := options.output.getD (Path.join folder (config.output.getD "."))
    dryRun := options.dryRun
    included := options.included.map (Pattern.ofStringBy readers.expression)
    excluded := options.excluded.map (Pattern.ofStringBy readers.expression) }

variable {m : Type → Type} [Monad m] [Files m]

/-- Renders the configuration that the options name. -/
def render (readers : Readers) (options : Options) : m (Except Failure Unit) := do
  match options.config with
  | none => return .error .noConfig
  | some path =>
    match ← Config.load readers.config path with
    | .error e => return .error (.notLoaded e)
    | .ok config => (Job.of readers options path config).run

end Stencil.Command
