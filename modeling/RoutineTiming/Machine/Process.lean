import RoutineTiming.Machine.World
import RoutineTiming.Process.Status

/-!
# Processes and programs

A process has a number, a directory in which it works, and numbered channels. It runs a program with
arguments and an environment, of which each entry is a name, an equals sign and a value. A file can
be run if it is marked so; its first bytes say how: it is one of the programs of the machine, or a
script that names its interpreter in its first line, or neither.

## Main definitions

* `Process`, `Task` : a process, and what it is to run.
* `Program` : what a task does to the world, and how it ends.
* `FileSystem.executable` : the bytes of a file that can be run.
* `Image` : what such bytes are.
* `FileSystem.programPath` : the file that the name of a program stands for.
* `runFile`, `runOrInterpret` : the run of a file by a process.
-/

namespace RoutineTiming

/-- A process. -/
structure Process where
  number : Nat
  /-- The processes that it was started by, the nearest first. -/
  parents : List Nat := []
  /-- The directory in which paths without a leading slash begin. -/
  directory : Place
  /-- The channels by their numbers. -/
  channels : List (Nat × Channel)
  /-- The signals that the process ignores. -/
  ignored : List Nat := []

/-- What a process is to run. -/
structure Task where
  process : Process
  /-- The name under which the program was started. -/
  title : String
  arguments : List String
  environment : List String

/-- How many bytes an argument or an entry of an environment can have, with the one that ends it. -/
def maxTextSize : Nat := 131072

/-- How many bytes the arguments and the environment can have together, where each text takes eight
more bytes for its place. -/
def maxTaskSize : Nat := 2097152

/-- The arguments and the environment are longer than the system allows. -/
def Task.isTooLong (task : Task) : Bool :=
  let sizes := (task.title :: task.arguments ++ task.environment).map fun text => text.length + 1
  sizes.any (maxTextSize < ·) || maxTaskSize < sizes.foldl (· + · + 8) 0

/-- The signal that a process gets when the system refuses for a reason, if there is one. -/
def SystemFault.signal? : SystemFault → Option Nat
  | .brokenPipe => some pipeSignal
  | _ => none

/-- What a task does to the world, and how it ends. -/
abbrev Program := Task → World → ExitStatus × World

namespace Process

/-- The channel with a number, if it is open. -/
def channel? (process : Process) (number : Nat) : Option Channel := process.channels.lookup number

/-- The process without a channel. -/
def close (process : Process) (number : Nat) : Process :=
  { process with channels := process.channels.filter fun e => e.1 ≠ number }

/-- The process with a channel under a number. -/
def connect (process : Process) (number : Nat) (channel : Channel) : Process :=
  { process with channels := (number, channel) :: (process.close number).channels }

/-- The world after the process wrote bytes to the channel with a number, and whether it could. -/
def write (process : Process) (number : Nat) (bytes : List UInt8) (world : World) :
    Except SystemFault Unit × World :=
  match process.channel? number with
  | some channel => world.write channel bytes
  | none => (.error .badDescriptor, world)

/-- A channel of the process that is open. -/
def openChannel (process : Process) (number : Nat) : Except SystemFault Channel :=
  match process.channel? number with
  | some channel => .ok channel
  | none => .error .badDescriptor

/-- The channel to what a path leads to, for the process. -/
def openFile (process : Process) (mode : OpenMode) (path : String) (world : World) :
    Except SystemFault (Channel × World) :=
  world.openFile process.channels process.directory mode path

end Process

/-! ### Files that can be run -/

/-- What the bytes of a file that can be run are. -/
inductive Image where
  /-- A program of the machine. -/
  | program (name : String)
  /-- A script with the interpreter that it names, and the argument for it. -/
  | script (interpreter : String) (argument : Option String)
  | other
  deriving DecidableEq

/-- The bytes with which the file of every program begins, which are no text. -/
def programMark : List UInt8 := [0x7F, 0x45, 0x4C, 0x46, 0x80]

/-- The bytes in the file of a program. -/
def programBytes (name : String) : List UInt8 := programMark ++ textBytes name

namespace Image

/-- A blank of the first line of a script. -/
def isBlank (c : Char) : Bool := c = ' ' || c = '\t'

/-- The script whose first line holds a text behind its mark, if it names an interpreter there. -/
def ofLine (line : List Char) : Image :=
  let words := line.dropWhile isBlank
  let interpreter := words.takeWhile fun c => !isBlank c
  let behind := (words.dropWhile fun c => !isBlank c).dropWhile isBlank
  let argument := behind.reverse.dropWhile isBlank
  if interpreter = [] then .other
  else .script (String.ofList interpreter)
    (if argument = [] then none else some (String.ofList argument.reverse))

/-- The script that has no more than a mark and blanks, which stand for the directory at hand. -/
def bare : Image := .script "." none

/-- What bytes are. -/
def ofBytes (bytes : List UInt8) : Image :=
  if programMark.isPrefixOf bytes then .program (byteText (bytes.drop programMark.length))
  else
    match (byteText bytes).toList with
    | '#' :: '!' :: rest =>
      if rest.all isBlank then bare else ofLine (rest.takeWhile fun c => c ≠ '\n')
    | _ => .other

end Image

/-- The bytes of the file at a path, if it can be run. -/
def FileSystem.executable (fs : FileSystem) (directory : Place) (path : String) :
    Except SystemFault (List UInt8) := do
  match ← fs.resolveFrom directory path with
  | (_, .file bytes true) => return bytes
  | _ => throw .permissionDenied

/-- The path of a file in a directory of a search path. -/
def inDirectory (directory name : String) : String :=
  if directory = "" then name else directory ++ "/" ++ name

/-- The reason says that something is missing on the way to a file. -/
def SystemFault.isMissing (fault : SystemFault) : Bool :=
  fault = .noSuchFile || fault = .notADirectory

/-- The path of the first file of a name that can be run, in the directories of a search path. If
there is none, the reason is that of a file that was found, or else the last one. -/
def FileSystem.search (fs : FileSystem) (directory : Place) (name : String)
    (reason : SystemFault) : List String → Except SystemFault String
  | [] => .error reason
  | first :: rest =>
    let path := inDirectory first name
    match fs.executable directory path with
    | .ok _ => .ok path
    | .error fault =>
      let kept := if fault.isMissing && !reason.isMissing then reason else fault
      fs.search directory name kept rest

/-- The path of the file that a name stands for: the name itself if it has a slash, or else a file
in the directories of a search path. -/
def FileSystem.programPath (fs : FileSystem) (directory : Place) (searchPath name : String) :
    Except SystemFault String :=
  if name = "" then .error .noSuchFile
  else if name.toList.contains '/' then .ok name
  else fs.search directory name .noSuchFile (searchPath.splitOn ":")

/-- The run of the file at a path by a process, through at most as many interpreters as given. -/
def runFile (programs : String → Option Program) :
    (interpreters : Nat) → String → Task → World → Except SystemFault (ExitStatus × World)
  | interpreters, path, task, world => do
    let bytes ← world.files.executable task.process.directory path
    if task.isTooLong then throw .argumentsTooLong
    match Image.ofBytes bytes, interpreters with
    | .program name, _ =>
      match programs name with
      | some program => return program task world
      | none => throw .notExecutable
    | .script interpreter argument, interpreters + 1 =>
      runFile programs interpreters interpreter
        { task with
          title := interpreter, arguments := argument.toList ++ path :: task.arguments } world
    | .script .., 0 => throw .tooManyLinks
    | .other, _ => throw .notExecutable

/-- How many scripts can be the interpreters of one another. -/
def interpreterDepth : Nat := 5

/-- The shell that runs scripts that name no interpreter. -/
def defaultInterpreter : String := "/bin/sh"

/-- The run of the file at a path by a process; a file that is no program and names no interpreter
is a script of the shell. -/
def runOrInterpret (programs : String → Option Program) (path : String) (task : Task)
    (world : World) : Except SystemFault (ExitStatus × World) :=
  match runFile programs interpreterDepth path task world with
  | .error .notExecutable =>
    runFile programs interpreterDepth defaultInterpreter
      { task with title := defaultInterpreter, arguments := path :: task.arguments } world
  | result => result

end RoutineTiming
