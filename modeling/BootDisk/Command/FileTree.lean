import BootDisk.Command.Host

/-!
# File trees

A tree has files in folders, and a folder that work is done in. A path leads from the working
folder, or from the root if it starts with a slash, to its end. Every component but the last has to
be a folder that is there: `.` stays in it and `..` goes up, but not above the root. What the last
component has to be depends on what is done. To read, it has to be a file; to write, it must not be
a folder, and a slash behind it asks for one whatever the name is.
-/

namespace BootDisk.Command

/-- A place in a tree: the names on the way from the root. -/
abbrev Place := List String

/-- Files in folders. The root, whose place is empty, is a folder of every tree. -/
structure FileTree where
  files : List (Place × Bytes)
  folders : List Place
  /-- The folder that relative paths start from. -/
  working : Place
  deriving DecidableEq

/-- What is at a place. -/
inductive Node where
  | folder
  | file (content : Bytes)
  | nothing
  deriving DecidableEq

/-- How a path ends. -/
inductive PathEnd where
  /-- In a folder, without a name in it. -/
  | folder
  /-- In a name in the folder at a place. A slash behind the name says that it is a folder's. -/
  | name (place : Place) (name : String) (asFolder : Bool)
  deriving DecidableEq

namespace FileTree

variable (tree : FileTree)

/-- The length in bytes that a component may have. -/
def componentLimit : Nat := 255

/-- The length in bytes that a path must stay below. -/
def pathLimit : Nat := 4096

/-- What is at a place. -/
def node (place : Place) : Node :=
  if place = [] ∨ place ∈ tree.folders then .folder
  else
    match tree.files.lookup place with
    | some content => .file content
    | none => .nothing

/-- What has a name in the folder at a place. -/
def child (place : Place) (name : String) : Except FileError Node :=
  if componentLimit < name.utf8ByteSize then .error .nameTooLong
  else .ok (tree.node (place ++ [name]))

/-- Whether a component names a folder by its relation to the folder it stands in. -/
def isRelative (component : String) : Bool :=
  component == "." || component == ".."

/-- The folder that a component leads to from the folder at a place. -/
def descend (place : Place) (component : String) : Except FileError Place :=
  if component = "." then .ok place
  else if component = ".." then .ok place.dropLast
  else
    match tree.child place component with
    | .ok .folder => .ok (place ++ [component])
    | .ok (.file _) => .error .notDirectory
    | .ok .nothing => .error .missing
    | .error error => .error error

/-- The components of a path. Slashes in a row count as one. -/
def components (path : String) : List String :=
  (path.splitOn "/").filter (!·.isEmpty)

/-- Where a path starts. -/
def start (path : String) : Place :=
  if path.startsWith "/" then [] else tree.working

/-- How a path ends, if all folders on the way are there. -/
def follow (path : String) : Except FileError PathEnd := do
  if path.isEmpty then
    throw .missing
  if pathLimit ≤ path.utf8ByteSize then
    throw .nameTooLong
  let place ← (components path).dropLast.foldlM tree.descend (tree.start path)
  match (components path).getLast? with
  | none => return .folder
  | some last =>
    return if isRelative last then .folder else .name place last (path.endsWith "/")

/-- The content of the file that a path leads to. -/
def read (path : String) : Except FileError Bytes := do
  match ← tree.follow path with
  | .folder => throw .isDirectory
  | .name place name asFolder =>
    match ← tree.child place name with
    | .folder => throw .isDirectory
    | .nothing => throw .missing
    | .file content => if asFolder then throw .notDirectory else return content

/-- The tree with a file at a place. -/
def put (place : Place) (content : Bytes) : FileTree :=
  { tree with files := (place, content) :: tree.files.filter (·.1 != place) }

/-- The tree after a file was written. A slash behind the name is refused before the name is looked
at. -/
def write (path : String) (content : Bytes) : Except FileError FileTree := do
  match ← tree.follow path with
  | .folder | .name _ _ true => throw .isDirectory
  | .name place name false =>
    match ← tree.child place name with
    | .folder => throw .isDirectory
    | .file _ | .nothing => return tree.put (place ++ [name]) content

end FileTree

end BootDisk.Command
