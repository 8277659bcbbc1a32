import Chip8.Files.Path
import Chip8.Text.Quoted

/-!
# Directories

The files below the directory from which paths are taken, as a pure value, and what a path leads to.

* `Directory.find` follows a path name by name.  A name can only be looked up in a directory, also if it is `.` or
  `..`;
* `Directory.read` is the content of a file, or the reason why it cannot be read, and `Directory.isFile` says if a path
  leads to a regular file;
* `Files` is what programs need of a directory: its name, and a way to read paths.

Files and directories are given by their ways: the names on the way to them, the last one first.  A way may begin with
`..` and lead to the directories above, the highest of which is the root; otherwise only some landmarks are known
outside.
-/

namespace Chip8

/-- Why a path cannot be read. -/
inductive FileError where
  | notFound (path : String)
  | notADirectory (path : String)
  | isADirectory (path : String)
  /-- The path, or a name on it, is too long. -/
  | tooLong (path : String)
  | nullCharacter
deriving DecidableEq, Repr

namespace FileError

def message : FileError → String
  | notFound path => "[Errno 2] No such file or directory: " ++ Text.quoted path
  | notADirectory path => "[Errno 20] Not a directory: " ++ Text.quoted path
  | isADirectory path => "[Errno 21] Is a directory: " ++ Text.quoted path
  | tooLong path => "[Errno 36] File name too long: " ++ Text.quoted path
  | nullCharacter => "embedded null byte"

end FileError

def maxPathBytes : Nat := 4095

def maxNameBytes : Nat := 255

/-- Where a path leads. -/
inductive Node where
  | file (content : List UInt8)
  /-- To a device that can be read like a file. -/
  | device (content : List UInt8)
  | directory (way : List String)
deriving DecidableEq, Repr

/-- What is known to stand somewhere in the file system. -/
inductive Landmark where
  | directory
  /-- A device, with what is read from it. -/
  | device (content : List UInt8)
  /-- Another way to the directory of a path. -/
  | link (target : String)
deriving DecidableEq, Repr

/-- A directory and what is known of the file system around it. -/
structure Directory where
  /-- The name of the directory itself, as seen from the root. -/
  location : String
  /-- The regular files and their contents. -/
  files : List (List String × List UInt8)
  /-- The directories below. -/
  directories : List (List String)
  /-- What is known besides, with where it leads. -/
  landmarks : List (List String × Node)

namespace Directory

/-- The way to the root from a directory so deep below. -/
def wayToRoot (depth : Nat) : List String := List.replicate depth ".."

/-- The way with one more name, from a directory so deep below the root, which is above itself. -/
def onward (depth : Nat) (way : List String) (name : String) : List String :=
  if name = ".." ∧ way = wayToRoot depth then way else normalStep false way name

/-- The ways on which one gets along names, one after each. -/
def stations (depth : Nat) (way : List String) : List String → List (List String)
  | [] => []
  | name :: rest => onward depth way name :: stations depth (onward depth way name) rest

/-- The way on which a path starts. -/
def startOf (depth : Nat) (path : String) : List String :=
  if path.toList.head? = some '/' then wayToRoot depth else []

/-- The way of a path. -/
def wayOf (depth : Nat) (path : String) : List String := (steps path).foldl (onward depth) (startOf depth path)

/-- The directories on a path to a file. -/
def directoriesOn (depth : Nat) (path : String) : List (List String) :=
  stations depth (startOf depth path) (steps path).dropLast

/-- Where the landmark at a path leads. -/
def nodeAt (depth : Nat) (path : String) : Landmark → Node
  | .directory => .directory (wayOf depth path)
  | .device content => .device content
  | .link target => .directory (wayOf depth target)

/-- The number of directories above the one with this name, as seen from the root. -/
def depthOf (location : String) : Nat := ((steps location).filter (· ≠ "")).length

/-- The directory into which files were put one after the other, each under a path with all directories on it, and
landmarks by their paths.  A later file takes the place of an earlier one. -/
def ofFiles (location : String) (files : List (String × List UInt8)) (landmarks : List (String × Landmark)) :
    Directory :=
  let depth := depthOf location
  { location := location
    files := (files.map fun (path, content) => (wayOf depth path, content)).reverse
    directories := files.flatMap fun (path, _) => directoriesOn depth path
    landmarks := landmarks.map fun (path, landmark) => (wayOf depth path, nodeAt depth path landmark) }

/-- The number of directories above a directory. -/
def depth (d : Directory) : Nat := depthOf d.location

/-- What stands on a way, if anything is known of that. -/
def lookup? (d : Directory) (way : List String) : Option Node :=
  match d.files.find? fun f => f.1 == way with
  | some f => some (.file f.2)
  | none =>
    match d.landmarks.find? fun l => l.1 == way with
    | some l => some l.2
    | none => if d.directories.contains way then some (.directory way) else none

/-- One step along a path. -/
def enter (d : Directory) (path : String) (node : Node) (name : String) : Except FileError Node :=
  match node with
  | .file _ | .device _ => .error (.notADirectory path)
  | .directory way =>
    if name = "" ∨ name = "." ∨ name = ".." then .ok (.directory (onward d.depth way name))
    else match d.lookup? (name :: way) with
      | some next => .ok next
      | none => .error (if maxNameBytes < name.utf8ByteSize then .tooLong path else .notFound path)

/-- Where a path leads. -/
def find (d : Directory) (path : String) : Except FileError Node :=
  if path.toList.contains '\x00' then .error .nullCharacter
  else if maxPathBytes < path.utf8ByteSize then .error (.tooLong path)
  else if path = "" then .error (.notFound path)
  else (steps path).foldlM (d.enter path) (.directory (startOf d.depth path))

/-- The content of the file to which a path leads. -/
def read (d : Directory) (path : String) : Except FileError (List UInt8) :=
  match d.find path with
  | .ok (.file content) | .ok (.device content) => .ok content
  | .ok _ => .error (.isADirectory path)
  | .error e => .error e

def isFile (d : Directory) (path : String) : Bool :=
  match d.find path with
  | .ok (.file _) => true
  | _ => false

end Directory

/-- Files that can be read by their paths. -/
structure Files where
  /-- The directory from which paths are taken, as seen from the root. -/
  location : String
  /-- The content of the file to which a path leads. -/
  read : String → Except FileError (List UInt8)
  /-- Does a path lead to a regular file? -/
  isFile : String → Bool

def Directory.toFiles (d : Directory) : Files := ⟨d.location, d.read, d.isFile⟩

end Chip8
