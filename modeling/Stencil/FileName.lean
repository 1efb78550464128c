import Stencil.Error
import Stencil.Text.CaseMap
import Stencil.Text.Search

/-!
File names, given or derived from an identifier. An identifier is cut before every ASCII capital;
the last of several segments is the extension.
-/

namespace Stencil

/-- The name of a template's output file. An extension is never empty. -/
structure FileName where
  name : String
  extension : Option String
  deriving DecidableEq, Repr

/-- An extension that is the empty text is none. -/
def FileName.nonempty (extension : Option String) : Option String :=
  extension.filter (!·.isEmpty)

namespace FileName

/-- A file name as given. The empty name is refused. -/
def given (name : String) (extension : Option String) : Except TemplateError FileName :=
  if name.isEmpty then .error (.emptyName name) else .ok ⟨name, nonempty extension⟩

/-- The same name with another extension. -/
def withExtension (file : FileName) (extension : Option String) : FileName :=
  ⟨file.name, nonempty extension⟩

/-- The name and, after a dot, the extension. -/
def full (file : FileName) : String :=
  match file.extension with
  | some extension => file.name ++ "." ++ extension
  | none => file.name

end FileName

/-- Cuts an identifier before every ASCII capital: `UserControllerPhp` has three segments,
`HTTPServer` has five. -/
def segments (identifier : String) : List String :=
  (identifier.toList.splitBy fun _ next => !next.isUpper).map String.ofList

/-- Changes a segment of the name. The answer may depend on how many segments were changed before,
so it is also given the number of this call, from one on. -/
abbrev SegmentFilter := Nat → String → String

namespace FileName

/-- What is left of an identifier without the suffix, where it ends in it. -/
def stem (identifier suffix : String) : String :=
  match Text.dropEnding? suffix.toList identifier.toList with
  | some chars => String.ofList chars
  | none => identifier

/-- The segments of the stem in lower case. -/
def parts (identifier suffix : String) : List String :=
  (segments (stem identifier suffix)).map fun segment =>
    String.ofList (Text.lowercase segment.toList)

/-- The parts that make up the name: all but the last one, unless there is only one. -/
def nameParts (identifier suffix : String) : List String :=
  let all := parts identifier suffix
  if 1 < all.length then all.dropLast else all

/-- The part that makes the extension, the last of several. -/
def extensionPart? (identifier suffix : String) : Option String :=
  let all := parts identifier suffix
  if 1 < all.length then all.getLast? else none

/-- The name that the filtered parts make, joined by dashes; `calls` is the number of calls of the
filter before. -/
def joined (filter : SegmentFilter) (calls : Nat) (parts : List String) : String :=
  String.ofList (List.intercalate ['-'] (parts.mapIdx fun i part =>
    (filter (calls + i + 1) part).toList))

/-- The file name of an identifier. The filter sees the parts of the name but not the extension,
and a name that comes out empty is refused. -/
def derive (identifier suffix : String) (filter : SegmentFilter) (calls : Nat) :
    Except TemplateError FileName :=
  let name := joined filter calls (nameParts identifier suffix)
  if name.isEmpty then .error (.emptyName identifier)
  else .ok ⟨name, extensionPart? identifier suffix⟩

/-- The suffix that is left off unless a template names another. -/
def defaultSuffix : String := "Template"

/-- The filter that changes nothing. -/
def keepSegments : SegmentFilter := fun _ segment => segment

end FileName

end Stencil
