import Stencil.Value.Compact

/-!
A one-line outline of a value that names the shape of every part, for diagnosis.
-/

namespace Stencil

/-- The name of a kind in outlines. -/
def Kind.outline : Kind → String
  | .null => "Null"
  | .bool => "Bool"
  | .number => "Number"
  | .string => "String"
  | .array => "Array"
  | .object => "Object"

namespace Value

mutual

/-- The outline: `Number(1)`, `String("a")`, `Array [Null]` and the like. -/
def outline : Value → String
  | .null => "Null"
  | .bool flag => "Bool(" ++ toString flag ++ ")"
  | .number n => "Number(" ++ String.ofList n.text ++ ")"
  | .string text => "String(" ++ Text.quoted text ++ ")"
  | .array items => "Array [" ++ outlineItems items ++ "]"
  | .object fields => "Object \x7b" ++ outlineFields fields ++ "\x7d"

/-- Outlines of items, with commas between them. -/
def outlineItems : List Value → String
  | [] => ""
  | [item] => outline item
  | item :: rest => outline item ++ ", " ++ outlineItems rest

/-- Outlines of fields, with commas between them. -/
def outlineFields : List (String × Value) → String
  | [] => ""
  | [(key, value)] => Text.quoted key ++ ": " ++ outline value
  | (key, value) :: rest =>
    Text.quoted key ++ ": " ++ outline value ++ ", " ++ outlineFields rest

end

end Value

end Stencil
