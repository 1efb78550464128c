/-!
Paths as texts, cut at slashes. Joining and taking the folder work on the text alone and never
normalize it; the components are what a file system walks through.
-/

namespace Stencil.Path

/-- A path below a folder. A path that begins with a slash stands for itself. -/
def join (folder path : String) : String :=
  if path.toList.head? = some '/' then path
  else if folder.isEmpty ∨ folder.toList.getLast? = some '/' then folder ++ path
  else folder ++ "/" ++ path

/-- The names between slashes, empty ones included. -/
def pieces : List Char → List (List Char)
  | [] => [[]]
  | c :: rest =>
    if c = '/' then [] :: pieces rest
    else
      match pieces rest with
      | [] => [[c]]
      | name :: names => (c :: name) :: names

/-- Whether a path starts at the root. -/
def isAbsolute (path : String) : Bool :=
  path.toList.head? = some '/'

/-- The names that a path goes through, without empty ones and single dots. -/
def components (path : String) : List String :=
  ((pieces path.toList).map String.ofList).filter fun name => !(name.isEmpty || name = ".")

/-- Takes slashes, and dots after a slash, from the end of a reversed path. A root slash stays. -/
def trimReversed : List Char → List Char
  | '/' :: c :: rest => trimReversed (c :: rest)
  | '.' :: '/' :: rest => trimReversed ('/' :: rest)
  | path => path
termination_by path => path.length

/-- The folder of a file, written as in the file's path; empty for a bare name. -/
def folder (path : String) : String :=
  String.ofList (trimReversed (path.toList.reverse.dropWhile (· ≠ '/'))).reverse

end Stencil.Path
