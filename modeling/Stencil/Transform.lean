import Stencil.Words
import Stencil.Text.CaseMap
import Stencil.Value.Compact
import Stencil.Digest.Uuid

/-!
The named transforms that turn a value into the text put in place of its placeholder. All work on
the value's text; the case styles join its words.
-/

namespace Stencil

namespace Words

/-- A word in lower case. A capital sigma is final where it ends the word. -/
def lowerWord : List Char → List Char
  | [] => []
  | ['\u03A3'] => ['\u03C2']
  | c :: rest => Text.lower c ++ lowerWord rest

/-- A word with its first character in upper case and the others in lower case. -/
def capitalize : List Char → List Char
  | [] => []
  | c :: rest => Text.upper c ++ lowerWord rest

/-- Words with a separator between them. -/
def join (separator : Char) (words : List (List Char)) : List Char :=
  List.intercalate [separator] words

/-- Words run together, all capitalized but the first. -/
def camel : List (List Char) → List Char
  | [] => []
  | first :: rest => lowerWord first ++ rest.flatMap capitalize

end Words

inductive Transform where
  | camelCase
  | pascalCase
  | snakeCase
  | kebabCase
  | screamingSnakeCase
  | upperCase
  | lowerCase
  | json
  | uuid
  deriving DecidableEq, Repr

namespace Transform

/-- All transforms, in the order in which they are listed. -/
def all : List Transform :=
  [.camelCase, .pascalCase, .snakeCase, .kebabCase, .screamingSnakeCase, .upperCase, .lowerCase,
    .json, .uuid]

/-- The name by which a configuration asks for a transform. -/
def name : Transform → String
  | .camelCase => "camelcase"
  | .pascalCase => "pascalcase"
  | .snakeCase => "snakecase"
  | .kebabCase => "kebabcase"
  | .screamingSnakeCase => "screamingsnakecase"
  | .upperCase => "uppercase"
  | .lowerCase => "lowercase"
  | .json => "json"
  | .uuid => "uuid"

/-- The transform of a name. -/
def named? (name : String) : Option Transform :=
  all.find? (·.name == name)

/-- The namespace of the identifiers that `uuid` gives. -/
def uuidSpace : Digest.Uuid :=
  Digest.Uuid.ofName Digest.Uuid.domainNames "placard.transforms.uuid"

/-- The text of a value under a transform. -/
def apply (transform : Transform) (value : Value) : String :=
  let chars := value.text.toList
  match transform with
  | .camelCase => String.ofList (Words.camel (words chars))
  | .pascalCase => String.ofList ((words chars).flatMap Words.capitalize)
  | .snakeCase => String.ofList (Words.join '_' ((words chars).map Words.lowerWord))
  | .kebabCase => String.ofList (Words.join '-' ((words chars).map Words.lowerWord))
  | .screamingSnakeCase => String.ofList (Words.join '_' ((words chars).map Text.uppercase))
  | .upperCase => String.ofList (Text.uppercase chars)
  | .lowerCase => String.ofList (Text.lowercase chars)
  | .json => value.compact
  | .uuid => (Digest.Uuid.ofName uuidSpace value.text).text

theorem named?_name (t : Transform) : named? t.name = some t := by
  cases t <;> decide +kernel

end Transform

end Stencil
