import Stencil.Template
import Stencil.Dedent
import Stencil.Value.Outline

/-!
A template together with its registry and what was made of it: the compiled text and the file name.
Every operation gives a result and the instance after it, also when it fails.
-/

namespace Stencil

structure Instance where
  template : Template
  registry : Registry
  /-- The text of the last compilation that succeeded, empty before. -/
  compiled : String
  /-- The file name, once one was found. -/
  knownName : Option FileName
  /-- How often naming the file has called the template so far: its filter, or its own answer. -/
  namingCalls : Nat

namespace Instance

/-- A fresh instance: the default marker, no values, nothing compiled. -/
def new (template : Template) : Instance where
  template := template
  registry := Registry.new Registry.defaultMarker template.declared
  compiled := ""
  knownName := none
  namingCalls := 0

def withMarker (inst : Instance) (marker : String) : Except TemplateError Instance :=
  (inst.registry.withMarker marker).map fun registry => { inst with registry := registry }

def provide (inst : Instance) (key : String) (value : Value) : Except TemplateError Instance :=
  (inst.registry.provide key value).map fun registry => { inst with registry := registry }

/-- Attaches a transform from outside the body and gives the placeholder. -/
def request (inst : Instance) (key : String) (choice : TransformChoice) :
    Except TemplateError (String × Instance) :=
  (inst.registry.request key choice).map fun (text, registry) =>
    (text, { inst with registry := registry })

/-- Runs the body, dedents its text and puts the values in. What the body did to the registry
stays, but on failure the text compiled before is kept. -/
def compile (inst : Instance) : Except TemplateError String × Instance :=
  match inst.registry.ensureProvided with
  | .error e => (.error e, inst)
  | .ok () =>
    let (content, registry) := Action.runAll inst.registry inst.template.body
    let ran := { inst with registry := registry }
    match content with
    | .error e => (.error e, ran)
    | .ok raw =>
      match registry.substitute (dedent raw) with
      | .error e => (.error e, ran)
      | .ok text => (.ok text, { ran with compiled := text })

/-- The file name. The first one found is kept; a failed attempt is made anew the next time. -/
def fileName (inst : Instance) : Except TemplateError FileName × Instance :=
  match inst.knownName with
  | some file => (.ok file, inst)
  | none =>
    let result := inst.template.fileName inst.namingCalls
    (result, { inst with
      knownName := result.toOption
      namingCalls := inst.namingCalls + inst.template.callsPerNaming })

/-- Names the file and gives what `view` takes of the name. -/
def nameView {α : Type} (inst : Instance) (view : FileName → α) :
    Except TemplateError α × Instance :=
  let (file, next) := inst.fileName
  (file.map view, next)

def name (inst : Instance) : Except TemplateError String × Instance :=
  inst.nameView (·.name)

def extension (inst : Instance) : Except TemplateError (Option String) × Instance :=
  inst.nameView (·.extension)

def fullName (inst : Instance) : Except TemplateError String × Instance :=
  inst.nameView (·.full)

/-- An outline of the instance on one line, for diagnosis. -/
def outline (inst : Instance) : String :=
  let block (name : String) (fields : List (String × String)) : String :=
    name ++ " \x7b " ++ ", ".intercalate (fields.map fun (field, text) => field ++ ": " ++ text) ++
      " \x7d"
  let list (items : List String) : String := "[" ++ ", ".intercalate items ++ "]"
  let declared := inst.registry.declared.map fun declaration =>
    block "ReplacerDecl" [("key", Text.quoted declaration.key), ("kind", declaration.kind.outline)]
  let entries := inst.registry.entries.map fun (key, replacer) =>
    "(" ++ Text.quoted key ++ ", " ++
      block "Replacer" [("value", replacer.value.outline),
        ("transform", if replacer.transform.isSome then "Some(\"<fn>\")" else "None")] ++ ")"
  let registry := block "Replacers" [("marker", Text.quoted inst.registry.marker),
    ("declared", list declared), ("entries", list entries)]
  block "TemplateInstance" [("identifier", Text.quoted inst.template.identifier),
    ("replacers", registry), ("compiled", Text.quoted inst.compiled)]

end Instance

end Stencil
