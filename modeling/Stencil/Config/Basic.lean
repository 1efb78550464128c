import Stencil.Config.Entry

/-!
Configurations: the marker, the output folder and the templates. How their texts are read is left to
a reader.
-/

namespace Stencil

structure Config where
  marker : String
  output : Option String
  entries : List Entry

namespace Config

/-- Reads configurations: the one that a text writes, if it writes one. -/
abbrev Reader := String → Option Config

/-- The configuration that a text holds. -/
def parse (read : Reader) (text : String) : Except ConfigError Config :=
  match read text with
  | some config => .ok config
  | none => .error .malformed

variable {m : Type → Type} [Monad m] [Files m]

/-- The configuration in a file. -/
def load (read : Reader) (path : String) : m (Except ConfigError Config) := do
  match ← Files.readText path with
  | some text => return parse read text
  | none => return .error .unreadable

end Config

end Stencil
