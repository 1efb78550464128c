import Stencil.Value.Basic
import Stencil.Text.Quoted

/-!
What can go wrong while values are provided and templates are compiled, named and written, and how
each fault is reported.
-/

namespace Stencil

inductive TemplateError where
  /-- A placeholder was asked for whose key has no value. -/
  | missingReplacer (key : String)
  | duplicateProvision (key : String)
  /-- The value to put in is null, `false`, zero or the empty text. -/
  | emptyValue (key : String)
  /-- The value to put in is not a text and no transform makes it one. -/
  | transformTypeMismatch (key : String) (found : Kind)
  | valueKindMismatch (key : String) (expected found : Kind)
  | undeclaredReplacer (key : String)
  /-- An empty marker would make every bare key a placeholder. -/
  | emptyMarker
  | invalidKey (key : String)
  /-- The identifier leaves nothing to name a file by. -/
  | emptyName (identifier : String)
  | unknownTransform (name : String)
  /-- The file at the path could not be written. -/
  | unwritable (path : String)
  deriving DecidableEq, Repr

/-- The message of an error. For a file that could not be written the system's reason is not part
of it. -/
def TemplateError.message : TemplateError → String
  | .missingReplacer key => "You must provide replacer for " ++ key
  | .duplicateProvision key => "Value for " ++ key ++ " is already provided"
  | .emptyValue key => key ++ " has no value"
  | .transformTypeMismatch key found =>
    key ++ " holds a " ++ found.word ++ " value and needs a transform to become text"
  | .valueKindMismatch key expected found =>
    key ++ " expects a " ++ expected.word ++ " value, got " ++ found.word
  | .undeclaredReplacer key => key ++ " is not a replacer declared by this template"
  | .emptyMarker => "Placeholder marker must not be empty"
  | .invalidKey key => "Invalid replacer key " ++ Text.quoted key ++ ": expected an identifier"
  | .emptyName identifier =>
    "Identifier " ++ Text.quoted identifier ++ " yields an empty file name"
  | .unknownTransform name => "Unknown transform: " ++ name
  | .unwritable path => "Failed to write " ++ Text.quotedStrictly path

end Stencil
