import Stencil.Error

/-!
The registry of one template: the marker around keys, the keys the template declares, and the
values provided so far in the order in which they came.
-/

namespace Stencil

/-- A key that a template takes, with the kind of its value. -/
structure Declaration where
  key : String
  kind : Kind
  deriving DecidableEq, Repr

/-- A provided value and what turns it into text. Without a transform the value has to be a text. -/
structure Replacer where
  value : Value
  transform : Option (Value → String)

/-- The text that takes the place of the key's placeholder. Presence is checked first, so a
transform never sees an absent value. -/
def Replacer.render (key : String) (replacer : Replacer) : Except TemplateError String :=
  if !replacer.value.isPresent then .error (.emptyValue key)
  else
    match replacer.transform, replacer.value with
    | some transform, value => .ok (transform value)
    | none, .string text => .ok text
    | none, value => .error (.transformTypeMismatch key value.kind)

structure Registry where
  marker : String
  declared : List Declaration
  entries : List (String × Replacer)

/-- An ASCII letter or low line, then such characters and ASCII digits. -/
def isIdentifier (key : String) : Bool :=
  match key.toList with
  | [] => false
  | first :: rest => (first.isAlpha || first = '_') && rest.all fun c => c.isAlphanum || c = '_'

namespace Registry

/-- The marker of a registry unless another is set. -/
def defaultMarker : String := "__"

/-- A registry without values. When nothing is declared, every identifier is accepted. -/
def new (marker : String) (declared : List Declaration) : Registry :=
  ⟨marker, declared, []⟩

def withMarker (registry : Registry) (marker : String) : Except TemplateError Registry :=
  if marker.isEmpty then .error .emptyMarker else .ok { registry with marker := marker }

/-- The text that stands for a key in a body. It is not checked that the key has a value. -/
def placeholder (registry : Registry) (key : String) : String :=
  registry.marker ++ key ++ registry.marker

def replacer? (registry : Registry) (key : String) : Option Replacer :=
  registry.entries.lookup key

def contains (registry : Registry) (key : String) : Bool :=
  registry.entries.any (·.1 == key)

def keys (registry : Registry) : List String :=
  registry.entries.map (·.1)

def size (registry : Registry) : Nat :=
  registry.entries.length

/-- Whether the declarations admit a value under a key. The first declaration of a key counts. -/
def admits (registry : Registry) (key : String) (value : Value) : Except TemplateError Unit :=
  if registry.declared.isEmpty then .ok ()
  else
    match registry.declared.find? (·.key == key) with
    | none => .error (.undeclaredReplacer key)
    | some declaration =>
      if declaration.kind = value.kind then .ok ()
      else .error (.valueKindMismatch key declaration.kind value.kind)

/-- Adds a value, without transform, after those provided before. A key has to be an identifier,
has to be admitted and can be provided only once; the faults are looked for in this order. -/
def provide (registry : Registry) (key : String) (value : Value) :
    Except TemplateError Registry :=
  if !isIdentifier key then .error (.invalidKey key)
  else
    match registry.admits key value with
    | .error e => .error e
    | .ok () =>
      if registry.contains key then .error (.duplicateProvision key)
      else .ok { registry with entries := registry.entries ++ [(key, ⟨value, none⟩)] }

/-- Gives the first entry of a key another transform. -/
def setTransform (key : String) (transform : Option (Value → String)) :
    List (String × Replacer) → List (String × Replacer)
  | [] => []
  | (other, replacer) :: rest =>
    if other = key then (other, { replacer with transform := transform }) :: rest
    else (other, replacer) :: setTransform key transform rest

/-- Attaches a transform to a provided key, in place of the one it had; `none` takes it away. -/
def attach (registry : Registry) (key : String) (transform : Option (Value → String)) :
    Except TemplateError Registry :=
  if registry.contains key then
    .ok { registry with entries := setTransform key transform registry.entries }
  else .error (.missingReplacer key)

/-- Every declared key has to have a value; the first one without is reported. -/
def ensureProvided (registry : Registry) : Except TemplateError Unit :=
  match registry.declared.find? fun declaration => !registry.contains declaration.key with
  | some declaration => .error (.missingReplacer declaration.key)
  | none => .ok ()

end Registry

end Stencil
