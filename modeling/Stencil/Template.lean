import Stencil.Registry.Substitute
import Stencil.FileName
import Stencil.Transform

/-!
Templates: an identifier, the keys it takes, how its file is named, and a body. A body is a list of
actions on the registry, whose texts are put together; an action may ask for placeholders, attach
transforms, or even provide values.
-/

namespace Stencil

/-- The transform that a placeholder is asked for with. -/
inductive TransformChoice where
  /-- No transform: the value has to be a text. -/
  | plain
  | function (transform : Value → String)
  /-- A transform by its name, which may be unknown. -/
  | named (name : String)

def TransformChoice.resolve : TransformChoice → Except TemplateError (Option (Value → String))
  | .plain => .ok none
  | .function transform => .ok (some transform)
  | .named name =>
    match Transform.named? name with
    | some transform => .ok (some transform.apply)
    | none => .error (.unknownTransform name)

/-- Attaches the chosen transform to a key and gives the key's placeholder. An unknown transform is
found before a missing value. -/
def Registry.request (registry : Registry) (key : String) (choice : TransformChoice) :
    Except TemplateError (String × Registry) :=
  match choice.resolve with
  | .error e => .error e
  | .ok transform => (registry.attach key transform).map fun next => (next.placeholder key, next)

/-- One step of a body. -/
inductive Action where
  | literal (text : String)
  /-- Attaches a transform and stands for the placeholder. -/
  | request (key : String) (choice : TransformChoice)
  /-- Attaches a transform without a text. -/
  | attach (key : String) (choice : TransformChoice)
  /-- A placeholder, whether the key has a value or not. -/
  | placeholder (key : String)
  | provide (key : String) (value : Value)
  /-- A text with the values known so far put in. -/
  | substitute (text : String)
  /-- The number of values provided so far. -/
  | size

namespace Action

/-- The text of an action and the registry after it. An action that fails leaves the registry as it
was. -/
def run (registry : Registry) : Action → Except TemplateError String × Registry
  | .literal text => (.ok text, registry)
  | .request key choice =>
    match registry.request key choice with
    | .ok (text, next) => (.ok text, next)
    | .error e => (.error e, registry)
  | .attach key choice =>
    match registry.request key choice with
    | .ok (_, next) => (.ok "", next)
    | .error e => (.error e, registry)
  | .placeholder key => (.ok (registry.placeholder key), registry)
  | .provide key value =>
    match registry.provide key value with
    | .ok next => (.ok "", next)
    | .error e => (.error e, registry)
  | .substitute text => (registry.substitute text, registry)
  | .size => (.ok (toString registry.size), registry)

/-- The texts of all actions together, each run on the registry that the one before it leaves. The
first failure ends the run; what was done before it stays. -/
def runAll (registry : Registry) : List Action → Except TemplateError String × Registry
  | [] => (.ok "", registry)
  | action :: rest =>
    match action.run registry with
    | (.error e, next) => (.error e, next)
    | (.ok text, next) =>
      match runAll next rest with
      | (.ok more, last) => (.ok (text ++ more), last)
      | (.error e, last) => (.error e, last)

end Action

/-- How a template's file is named: as given, from its identifier and with another extension where
one is set, or by whatever the template answers. -/
inductive Naming where
  | given (name : String) (extension : Option String)
  | derived (suffix : String) (filter : SegmentFilter) (extension : Option String)
  /-- The answer may depend on how often the template was asked before, so it is given the number of
  this attempt, from one on. -/
  | answered (answer : Nat → Except TemplateError FileName)

/-- The naming of a template that says nothing about it. -/
def Naming.default : Naming :=
  .derived FileName.defaultSuffix FileName.keepSegments none

structure Template where
  identifier : String
  declared : List Declaration
  naming : Naming
  body : List Action

namespace Template

/-- The file name, when the filter was called, or the template asked, `calls` times before. -/
def fileName (template : Template) (calls : Nat) : Except TemplateError FileName :=
  match template.naming with
  | .given name extension => FileName.given name extension
  | .derived suffix filter extension =>
    (FileName.derive template.identifier suffix filter calls).map fun file =>
      if extension.isSome then file.withExtension extension else file
  | .answered answer => answer (calls + 1)

/-- How often naming the file calls the filter, or asks the template. -/
def callsPerNaming (template : Template) : Nat :=
  match template.naming with
  | .given _ _ => 0
  | .derived suffix _ _ => (FileName.nameParts template.identifier suffix).length
  | .answered _ => 1

end Template

end Stencil
