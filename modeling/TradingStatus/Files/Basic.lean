import TradingStatus.Failure
import TradingStatus.Files.Path

/-! Files as a value: what lies under which path, and from where relative paths lead. -/

namespace TradingStatus

/-- What a path can lead to. -/
inductive FileNode
  | file (bytes : List UInt8)
  | directory

/-- The files and directories under their names from the root on, and the directory that relative
paths start from. A directory need not be listed if something lies in it. -/
structure Files where
  working : List String
  nodes : List (List String × FileNode)

namespace Files

/-- What lies under names from the root on. -/
def at? (files : Files) (names : List String) : Option FileNode :=
  match files.nodes.lookup names with
  | some node => some node
  | none =>
    if names.isPrefixOf files.working || files.nodes.any (names.isPrefixOf ·.1) then
      some .directory
    else none

/-- Where a name leads from a directory. -/
def follow (place : List String) (name : String) : List String :=
  if name = "" ∨ name = "." then place
  else if name = ".." then place.dropLast
  else place ++ [name]

/-- What the names lead to from a directory on. -/
def walk (files : Files) (place : List String) : List String → Option FileNode
  | [] => files.at? place
  | name :: rest =>
    match files.at? place with
    | some .directory => walk files (follow place name) rest
    | _ => none

/-- The directory that a path starts from. -/
def start (files : Files) (path : String) : List String :=
  if Path.isAbsolute path then [] else files.working

/-- What a path leads to. -/
def find? (files : Files) (path : String) : Option FileNode :=
  if path = "" then none
  else walk files (files.start path) (Path.names path)

/-- A path leads somewhere. -/
def hasPath (files : Files) (path : String) : Bool := (files.find? path).isSome

/-- The names from the root on that a path stands for. -/
def place (files : Files) (path : String) : List String :=
  (Path.names path).foldl follow (files.start path)

/-- The files with what lies under a path replaced. -/
def write (files : Files) (path : String) (node : FileNode) : Files :=
  let names := files.place path
  { files with nodes := (names, node) :: files.nodes.filter fun entry => entry.1 != names }

/-- The directories that names lead through from a directory on. -/
def passage (place : List String) : List String → List (List String)
  | [] => []
  | name :: rest => place :: passage (follow place name) rest

/-- The files with all directories that a path leads through. -/
def withPassage (files : Files) (path : String) : Files :=
  let places := passage (files.start path) (Path.names path)
  { files with nodes := files.nodes ++ places.map fun place => (place, .directory) }

/-- The files without what lies under a path. -/
def remove (files : Files) (path : String) : Files :=
  let names := files.place path
  { files with nodes := files.nodes.filter fun entry => !names.isPrefixOf entry.1 }

/-- The bytes of the file that a path leads to. -/
def read (files : Files) (path : String) : Except Failure (List UInt8) :=
  match files.find? path with
  | some (.file bytes) => .ok bytes
  | some .directory => .error (.isDirectory path)
  | none => .error (.fileMissing path)

end Files

end TradingStatus
