import Stencil.Instance
import Stencil.Disk.Files
import Stencil.Disk.Path

/-!
Configured templates: an entry names a template, its body or the file that holds it, and the values
of its replacers. An entry becomes an instance with every value provided.
-/

namespace Stencil

/-- A configured value, alone or with the name of a transform. -/
inductive Setting where
  | plain (value : Value)
  | detailed (value : Value) (transform : Option String)

namespace Setting

def value : Setting → Value
  | .plain value => value
  | .detailed value _ => value

def transform : Setting → Option String
  | .plain _ => none
  | .detailed _ transform => transform

/-- The choice that the body of a configured template asks for a placeholder with. -/
def choice (setting : Setting) : TransformChoice :=
  match setting.transform with
  | some name => .named name
  | none => .plain

end Setting

/-- A configured template. -/
structure Entry where
  identifier : String
  name : Option String
  extension : Option String
  suffix : String
  body : Option String
  file : Option String
  /-- In the order of the configuration. A key may occur more than once. -/
  replacers : List (String × Setting)
  enabled : Bool

inductive ConfigError where
  /-- The configuration or a body could not be read. -/
  | unreadable
  /-- The configuration is not of the expected form. -/
  | malformed
  | missingBody (identifier : String)
  | template (cause : TemplateError)
  deriving DecidableEq, Repr

/-- The message of an error, without the reader's or the system's reason. -/
def ConfigError.message : ConfigError → String
  | .unreadable => "Failed to read config file"
  | .malformed => "Failed to parse YAML"
  | .missingBody identifier =>
    "Template " ++ identifier ++ " needs exactly one of \x60body\x60 or \x60file\x60"
  | .template cause => cause.message

namespace Entry

/-- The first setting of a key. -/
def setting? (entry : Entry) (key : String) : Option Setting :=
  entry.replacers.lookup key

/-- Each configured key, declared with the kind of its value. -/
def declared (entry : Entry) : List Declaration :=
  entry.replacers.map fun (key, setting) => ⟨key, setting.value.kind⟩

/-- The first transform of the configured ones that is not known. -/
def unknownTransform? (entry : Entry) : Option String :=
  (entry.replacers.filterMap fun (_, setting) => setting.transform).find? fun name =>
    (Transform.named? name).isNone

/-- An explicit name is taken as it is; a derived one takes the configured extension, if any. -/
def naming (entry : Entry) : Naming :=
  match entry.name with
  | some name => .given name entry.extension
  | none => .derived entry.suffix FileName.keepSegments entry.extension

/-- Sets the transform of every configured key and gives the body as written. The line feed in
front keeps dedenting from taking the first line. -/
def actions (entry : Entry) (body : String) : List Action :=
  (entry.replacers.map fun (key, setting) => .attach key setting.choice) ++
    [.literal ("\n" ++ body)]

/-- The template of an entry. Unknown transforms are refused here already. -/
def template (entry : Entry) (body : String) : Except TemplateError Template :=
  match entry.unknownTransform? with
  | some name => .error (.unknownTransform name)
  | none => .ok ⟨entry.identifier, entry.declared, entry.naming, entry.actions body⟩

/-- Provides the configured values in order. -/
def provideAll (inst : Instance) : List (String × Setting) → Except TemplateError Instance
  | [] => .ok inst
  | (key, setting) :: rest =>
    match inst.provide key setting.value with
    | .ok next => provideAll next rest
    | .error e => .error e

/-- The instance of an entry's template, with the marker set and nothing provided. -/
def blank (entry : Entry) (body marker : String) : Except TemplateError Instance :=
  match entry.template body with
  | .error e => .error e
  | .ok template => (Instance.new template).withMarker marker

/-- The instance of an entry whose body is known. -/
def prepare (entry : Entry) (body marker : String) : Except TemplateError Instance :=
  match entry.blank body marker with
  | .error e => .error e
  | .ok inst => provideAll inst entry.replacers

variable {m : Type → Type} [Monad m] [Files m]

/-- The body, from the entry or from its file below a folder. Exactly one of the two has to be
set. -/
def loadBody (entry : Entry) (folder : String) : m (Except ConfigError String) :=
  match entry.body, entry.file with
  | some body, none => return .ok body
  | none, some file => do
    match ← Files.readText (Path.join folder file) with
    | some text => return .ok text
    | none => return .error .unreadable
  | _, _ => return .error (.missingBody entry.identifier)

/-- The instance of an entry, ready to compile. -/
def instantiate (entry : Entry) (folder marker : String) : m (Except ConfigError Instance) := do
  match ← entry.loadBody folder with
  | .error e => return .error e
  | .ok body => return (entry.prepare body marker).mapError .template

end Entry

end Stencil
