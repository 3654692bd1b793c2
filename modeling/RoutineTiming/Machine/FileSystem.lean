import RoutineTiming.SystemFault
import RoutineTiming.Text.Bytes

/-!
# Files

A file system is a list of directories, files and devices by their places. A path is followed part
by part: an empty part and a single dot stay where they are, two dots go up, and every part but the
last must lead to a directory. Names and paths are texts of bytes.

## Main definitions

* `FileSystem` : directories, files and devices.
* `FileSystem.locate` : the place that a path names, and what is there.
* `FileSystem.resolve` : what a path leads to.
* `FileSystem.exists?`, `FileSystem.readText` : the questions asked of a file system.
* `FileSystem.put` : the change of a file system.
-/

namespace RoutineTiming

/-- A place in a file system, as the names from the root down. -/
abbrev Place := List String

/-- A file that has no contents of its own. -/
inductive Device where
  /-- The device that is always empty and drops what is written to it. -/
  | null
  /-- The device of endless zero bytes. -/
  | zero
  /-- The device on which there is never room. -/
  | full
  /-- What the process at hand has open under a number. -/
  | descriptor (number : Nat)
  deriving DecidableEq, Repr

/-- What is at a place. -/
inductive Node where
  | directory
  | file (bytes : List UInt8) (isExecutable : Bool)
  | device (device : Device)
  deriving DecidableEq, Repr

/-- Directories, files and devices by their places. The root is always a directory. -/
structure FileSystem where
  nodes : List (Place × Node) := []
  /-- The directory in which paths without a leading slash begin. -/
  workingDirectory : Place := []

namespace FileSystem

/-- What is at a place. -/
def node? (fs : FileSystem) (place : Place) : Option Node :=
  if place = [] then some .directory
  else (fs.nodes.find? fun e => e.1 = place).map Prod.snd

/-- The directory at a place, or the fault that there is none. -/
def checkDirectory (fs : FileSystem) (place : Place) : Except SystemFault Unit :=
  match fs.node? place with
  | some .directory => .ok ()
  | some _ => .error .notADirectory
  | none => .error .noSuchFile

/-- The place that a name leads to from a directory. -/
def step (fs : FileSystem) (place : Place) (name : String) : Except SystemFault Place := do
  fs.checkDirectory place
  if name = "" ∨ name = "." then return place
  else if name = ".." then return place.dropLast
  else if 255 < name.length then throw .nameTooLong
  else return place ++ [name]

/-- The place that names lead to one after the other; the last of them may be missing. -/
def walk (fs : FileSystem) (place : Place) (names : List String) : Except SystemFault Place :=
  names.foldlM fs.step place

/-- The place that a path names, from a directory, and what is there if anything is. -/
def locateFrom (fs : FileSystem) (directory : Place) (path : String) :
    Except SystemFault (Place × Option Node) := do
  if path.toList.contains '\x00' then throw .nulInPath
  if path = "" then throw .noSuchFile
  if 4096 ≤ path.length then throw .nameTooLong
  let start := if path.toList.head? = some '/' then [] else directory
  let place ← fs.walk start (path.splitOn "/")
  return (place, fs.node? place)

/-- What a path leads to from a directory, with its place. -/
def resolveFrom (fs : FileSystem) (directory : Place) (path : String) :
    Except SystemFault (Place × Node) := do
  match ← fs.locateFrom directory path with
  | (place, some node) => return (place, node)
  | (_, none) => throw .noSuchFile

/-- What a path leads to, with its place. -/
def resolve (fs : FileSystem) (path : String) : Except SystemFault (Place × Node) :=
  fs.resolveFrom fs.workingDirectory path

/-- The path leads somewhere. -/
def exists? (fs : FileSystem) (path : String) : Bool :=
  match fs.resolve (encodedText path) with
  | .ok _ => true
  | .error _ => false

/-- The bytes in what is at a place. -/
def contents : Node → Except SystemFault (List UInt8)
  | .directory => .error .isADirectory
  | .file bytes _ => .ok bytes
  | .device _ => .ok []

/-- The text of the file that a path leads to. -/
def readText (fs : FileSystem) (path : String) : Except SystemFault String := do
  let (_, node) ← fs.resolve (encodedText path)
  let bytes ← contents node
  match String.fromUTF8? ⟨bytes.toArray⟩ with
  | some text => return text
  | none => throw .invalidText

/-! ### Changes -/

/-- The nodes with one of them replaced, or with a new one. -/
def putNode (place : Place) (node : Node) : List (Place × Node) → List (Place × Node)
  | [] => [(place, node)]
  | (p, old) :: rest => if p = place then (p, node) :: rest else (p, old) :: putNode place node rest

/-- The file system with something put at a place. -/
def put (fs : FileSystem) (place : Place) (node : Node) : FileSystem :=
  { fs with nodes := putNode place node fs.nodes }

/-- The names in a directory, in the order of their bytes. -/
def names (fs : FileSystem) (place : Place) : List String :=
  (fs.nodes.filterMap fun (p, _) =>
    match p.getLast? with
    | some name => if p.dropLast = place then some name else none
    | none => none).mergeSort (· ≤ ·)

end FileSystem

end RoutineTiming
