import Stencil.Config.Entry

/-!
Entries and settings read from values. An object gives the fields by name; a list gives them in
their fixed order.
-/

namespace Stencil

/-- A transform field: a name, or null for none. -/
def Setting.transformOf? : Value → Option (Option String)
  | .null => some none
  | .string name => some (some name)
  | _ => none

/-- A value with a transform, from an object with these two fields alone or from a list of two. -/
def Setting.detailedOf? : Value → Option Setting
  | .object fields =>
    if fields.all fun (key, _) => key = "value" ∨ key = "transform" then do
      let value ← fields.lookup "value"
      let transform ← Setting.transformOf? ((fields.lookup "transform").getD .null)
      some (.detailed value transform)
    else none
  | .array [value, transform] => (Setting.transformOf? transform).map (.detailed value)
  | _ => none

/-- A setting is read as a value with a transform where it can be, else as the value alone. -/
def Setting.ofValue (value : Value) : Setting :=
  (Setting.detailedOf? value).getD (.plain value)

namespace Entry

/-- The fields of an entry in the order in which a list gives them. -/
def fieldOrder : List String :=
  ["identifier", "name", "extension", "suffix", "body", "file", "replacers", "enabled"]

/-- The fields of an entry by name. In a list only the last two may be left out. -/
def fieldsOf? : Value → Option (List (String × Value))
  | .object fields => some fields
  | .array items =>
    if 6 ≤ items.length ∧ items.length ≤ 8 then some (fieldOrder.zip items) else none
  | _ => none

def textOf? : Value → Option String
  | .string text => some text
  | _ => none

def optionalTextOf? : Value → Option (Option String)
  | .null => some none
  | .string text => some (some text)
  | _ => none

def flagOf? : Value → Option Bool
  | .bool flag => some flag
  | _ => none

def settingsOf? : Value → Option (List (String × Setting))
  | .object fields => some (fields.map fun (key, value) => (key, Setting.ofValue value))
  | _ => none

/-- A field that may be left out, but not be null. -/
def orDefault {α : Type} (read : Value → Option α) (otherwise : α) (field : Option Value) :
    Option α :=
  match field with
  | some value => read value
  | none => some otherwise

/-- An entry from a value. Fields that an entry does not have are ignored. -/
def ofValue? (value : Value) : Option Entry := do
  let fields ← fieldsOf? value
  let optional (name : String) := optionalTextOf? ((fields.lookup name).getD .null)
  some {
    identifier := ← textOf? (← fields.lookup "identifier")
    name := ← optional "name"
    extension := ← optional "extension"
    suffix := ← orDefault textOf? FileName.defaultSuffix (fields.lookup "suffix")
    body := ← optional "body"
    file := ← optional "file"
    replacers := ← orDefault settingsOf? [] (fields.lookup "replacers")
    enabled := ← orDefault flagOf? true (fields.lookup "enabled") }

end Entry

end Stencil
