/-!
What the program needs of a file system. The operations are abstract so that the same program runs
on the real file system and on a pure one.
-/

namespace Stencil

class Files (m : Type → Type) where
  /-- The text of a file; nothing when there is no file at the path or it does not hold a text. -/
  readText : String → m (Option String)
  /-- Replaces the whole file at the path, or makes it. Tells whether that succeeded; when not,
  nothing changed. -/
  writeText : String → String → m Bool
  /-- Makes a folder and the folders it lies in. Tells whether the folder is there afterwards. -/
  makeFolders : String → m Bool

end Stencil
