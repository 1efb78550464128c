import Stencil.Disk.Files
import Stencil.Disk.Path

/-!
A file system as a value: folders and files by their locations, and a working folder from which
relative paths start. Names are at most 255 bytes long and paths shorter than 4096; there are no
links and no permissions.
-/

namespace Stencil

/-- The names on the way from the root. -/
abbrev Location := List String

inductive Disk.Node where
  | folder
  | file (content : ByteArray)

structure Disk where
  /-- At most one node for each location. The root and the working folder are always folders. -/
  nodes : List (Location × Disk.Node)
  working : Location

namespace Disk

/-- A disk with nothing but the working folder. -/
def empty (working : Location) : Disk :=
  ⟨[], working⟩

def node? (disk : Disk) (location : Location) : Option Node :=
  if location.isPrefixOf disk.working then some .folder else disk.nodes.lookup location

def isFolder (disk : Disk) (location : Location) : Bool :=
  match disk.node? location with
  | some .folder => true
  | _ => false

/-- Puts a node at a location, in place of what was there. -/
def put (disk : Disk) (location : Location) (node : Node) : Disk :=
  { disk with nodes := (location, node) :: disk.nodes.filter fun entry => entry.1 ≠ location }

/-- Where one name leads from a folder. Two dots lead out of it, but not out of the root. -/
def step (location : Location) (name : String) : Location :=
  if name.isEmpty ∨ name = "." then location
  else if name = ".." then location.dropLast
  else location ++ [name]

/-- Follows names from a location. Each one is looked up in a folder that has to exist; whether the
last one exists is left open. -/
def walk? (disk : Disk) (location : Location) : List String → Option Location
  | [] => some location
  | name :: rest =>
    if disk.isFolder location ∧ name.utf8ByteSize ≤ 255 then disk.walk? (step location name) rest
    else none

/-- Whether a path can be looked up at all. -/
def isUsable (path : String) : Bool :=
  !path.isEmpty && path.utf8ByteSize < 4096 && !path.toList.contains '\x00'

/-- Where a path starts. -/
def origin (disk : Disk) (path : String) : Location :=
  if Path.isAbsolute path then [] else disk.working

/-- The location of a path. A slash at the end asks for a folder. -/
def locate? (disk : Disk) (path : String) : Option Location :=
  if isUsable path then
    disk.walk? (disk.origin path) ((Path.pieces path.toList).map String.ofList)
  else none

/-- The bytes of the file at a path. -/
def bytes? (disk : Disk) (path : String) : Option ByteArray :=
  match (disk.locate? path).bind disk.node? with
  | some (.file content) => some content
  | _ => none

/-- The file at a path, when it is well-formed text. -/
def text? (disk : Disk) (path : String) : Option String :=
  (disk.bytes? path).bind String.fromUTF8?

/-- The disk with a file at a path; not possible where a folder is or where none can be. -/
def write? (disk : Disk) (path : String) (content : ByteArray) : Option Disk :=
  match disk.locate? path with
  | none => none
  | some location =>
    if disk.isFolder location then none else some (disk.put location (.file content))

/-- Makes the folders that names lead through, from a location on. Where that is not possible the
folders made before stay, and the second part is `none`. -/
def grow (disk : Disk) (location : Location) : List String → Disk × Option Location
  | [] => (disk, some location)
  | name :: rest =>
    if 255 < name.utf8ByteSize then (disk, none)
    else
      let next := step location name
      match disk.node? next with
      | some .folder => disk.grow next rest
      | some (.file _) => (disk, none)
      | none => (disk.put next .folder).grow next rest

/-- Makes the folder at a path and the folders it lies in; tells whether it is there afterwards. A
dot at the end of a path asks for a folder that is already there, so the last name before it is
not made. -/
def makeFolders (disk : Disk) (path : String) : Bool × Disk :=
  if path.isEmpty then (true, disk)
  else if !isUsable path then (false, disk)
  else
    let names := Path.components path
    let dotted := ((Path.pieces path.toList).filter (!·.isEmpty)).getLast? = some ['.']
    if dotted then
      let (grown, _) := disk.grow (disk.origin path) names.dropLast
      (((grown.locate? path).map grown.isFolder).getD false, grown)
    else
      let (grown, found) := disk.grow (disk.origin path) names
      (found.isSome, grown)

/-- The nodes below the working folder, by their paths from it, in increasing order of the paths.
The path of a folder ends in a slash. -/
def tree (disk : Disk) : List (String × Node) :=
  let below := disk.nodes.filterMap fun (location, node) =>
    match disk.working.isPrefixOf? location with
    | some rest =>
      let path := "/".intercalate rest
      match node with
      | .folder => some (path ++ "/", node)
      | .file _ => some (path, node)
    | none => none
  below.mergeSort fun first second => !(second.1 < first.1)

end Disk

instance : Files (StateM Disk) where
  readText path := do return (← get).text? path
  writeText path text := do
    match (← get).write? path text.toUTF8 with
    | some disk => set disk; return true
    | none => return false
  makeFolders path := modifyGet (·.makeFolders path)

end Stencil
