import Stencil.Config.Basic
import Stencil.Yaml.Datum

/-!
Configurations read from YAML. The fields of a configuration are texts whatever their scalars look
like; the values of replacers are data.
-/

namespace Stencil

open Yaml (Datum Document Node Resolving)

mutual

/-- The value of a datum. The keys of a map have to be texts; of equal keys the last one counts. -/
def Value.ofDatum? : Datum → Option Value
  | .null => some .null
  | .bool flag => some (.bool flag)
  | .natural n => some (.number (.whole n))
  | .negative n => some (.number (.whole n))
  | .float (some x) => some (.number (.float x))
  | .float none => some .null
  | .text text => some (.string text)
  | .list items => (Value.ofItems? items).map .array
  | .map fields => (Value.ofMapped? fields).map Value.ofFields

def Value.ofItems? : List Datum → Option (List Value)
  | [] => some []
  | item :: rest => do
    let value ← Value.ofDatum? item
    some (value :: (← Value.ofItems? rest))

def Value.ofMapped? : List (Datum × Datum) → Option (List (String × Value))
  | [] => some []
  | (.text key, item) :: rest => do
    let value ← Value.ofDatum? item
    some ((key, value) :: (← Value.ofMapped? rest))
  | _ => none

end

namespace Setting

/-- The field of a setting that a key means: by its name, or by its place from zero on. -/
def fieldOf? : Datum → Option String
  | .text "value" => some "value"
  | .text "transform" => some "transform"
  | .natural 0 => some "value"
  | .natural 1 => some "transform"
  | _ => none

/-- A transform field of a datum. -/
def transformOfDatum? : Datum → Option (Option String)
  | .null => some none
  | .text name => some (some name)
  | _ => none

/-- A value with a transform, from a map with these two fields alone and none of them twice, or
from a list of two. -/
def detailedOfDatum? : Datum → Option Setting
  | .map fields => do
    let named ← fields.mapM fun (key, item) => (fieldOf? key).map fun name => (name, item)
    if (named.map (·.1)).eraseDups.length < named.length then none
    else
      let value ← (named.lookup "value").bind Value.ofDatum?
      let transform ← transformOfDatum? ((named.lookup "transform").getD .null)
      some (.detailed value transform)
  | .list [item, transform] => do
    let value ← Value.ofDatum? item
    (transformOfDatum? transform).map (.detailed value)
  | _ => none

/-- A setting from a datum: a value with a transform where it can be read so, else a value alone. -/
def ofDatum? (datum : Datum) : Option Setting :=
  detailedOfDatum? datum <|> (Value.ofDatum? datum).map .plain

end Setting

namespace Config

/-- The text of a scalar, whatever it looks like. -/
def text (document : Document) (node : Node) : Resolving String := do
  match ← document.follow node with
  | .scalar _ _ text => return text
  | _ => failure

/-- A text, or none where nothing or a word for null is written. -/
def optionalText (document : Document) (node : Node) : Resolving (Option String) := do
  match ← document.follow node with
  | .scalar tag style text =>
    if style ≠ .plain then return some text
    else if tag = some Yaml.nullTag then
      if Yaml.isNullWord text then return none else failure
    else if tag.isNone ∧ (text.isEmpty ∨ Yaml.isNullWord text) then return none
    else return some text
  | _ => failure

/-- A flag, from a plain word or from a literal block with the tag of booleans. -/
def flag (document : Document) (node : Node) : Resolving Bool := do
  match ← document.follow node with
  | .scalar tag style text =>
    let admitted := style = .plain ∨ (style = .literal ∧ tag = some Yaml.boolTag)
    match Yaml.boolWord? text with
    | some flag => if admitted then return flag else failure
    | none => failure
  | _ => failure

/-- The fields of a mapping by name. -/
def fields (document : Document) (node : Node) : Resolving (List (String × Node)) := do
  match ← document.follow node with
  | .mapping _ fields => fields.mapM fun (key, value) => return (← text document key, value)
  | _ => failure

/-- Whether an empty plain scalar stands in place of a collection. -/
def isAbsent : Node → Bool
  | .scalar _ style text => style = .plain && text.isEmpty
  | _ => false

/-- The items of a sequence, none where nothing is written. -/
def items (document : Document) (node : Node) : Resolving (List Node) := do
  match ← document.follow node with
  | .sequence _ items => return items
  | other => if isAbsent other then return [] else failure

/-- The one field of a name; not possible when the name occurs twice. -/
def field (fields : List (String × Node)) (name : String) : Resolving (Option Node) :=
  match fields.filter (·.1 = name) with
  | [] => return none
  | [(_, node)] => return some node
  | _ => failure

/-- A field read by a reader, or what stands for it when it is left out. -/
def readField {α : Type} (document : Document) (fields : List (String × Node)) (name : String)
    (read : Document → Node → Resolving α) (otherwise : Resolving α) : Resolving α := do
  match ← field fields name with
  | some node => read document node
  | none => otherwise

/-- The settings of an entry, in the order in which they are written. -/
def settings (depth : Nat) (document : Document) (node : Node) :
    Resolving (List (String × Setting)) := do
  let node ← document.follow node
  if isAbsent node then return []
  else
    (← fields document node).mapM fun (key, value) => do
      match Setting.ofDatum? (← document.datum depth value) with
      | some setting => return (key, setting)
      | none => failure

/-- An entry of a configuration. -/
def entry (depth : Nat) (document : Document) (node : Node) : Resolving Entry := do
  let fields ← fields document node
  let optional (name : String) := readField document fields name optionalText (return none)
  return {
    identifier := ← readField document fields "identifier" text failure
    name := ← optional "name"
    extension := ← optional "extension"
    suffix := ← readField document fields "suffix" text (return FileName.defaultSuffix)
    body := ← optional "body"
    file := ← optional "file"
    replacers := ← readField document fields "replacers" (settings depth) (return [])
    enabled := ← readField document fields "enabled" flag (return true) }

/-- The configuration of a document. Four collections lie around the value of a replacer. -/
def ofDocument (document : Document) : Resolving Config := do
  let fields ← fields document document.root
  return {
    marker := ← readField document fields "marker" text (return Registry.defaultMarker)
    output := ← readField document fields "output" optionalText (return none)
    entries := ← readField document fields "templates" (fun document node => do
      (← items document node).mapM (entry (Yaml.depthLimit - 4) document)) failure }

/-- The configuration that a text writes in YAML. -/
def ofYaml? : Reader := fun text => do
  let document ← Document.ofText? text
  let (config, _) ← (ofDocument document).run 0
  some config

end Config

end Stencil
