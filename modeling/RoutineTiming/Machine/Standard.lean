import RoutineTiming.Machine.Programs
import RoutineTiming.Machine.Signals
import RoutineTiming.Process.Launch

/-!
# A machine

A machine has files and variables, and runs commands to their end. What a command does to the files
stays.

## Main definitions

* `Machine` : files and variables.
* `Machine.launch` : the machine as a launcher.
* `Machine.standard` : a machine with the usual directories and programs.
-/

namespace RoutineTiming

/-- A machine. -/
structure Machine where
  files : FileSystem
  /-- The variables that every process starts with, of which later ones count. -/
  environment : List (String × String) := []

namespace Machine

/-! ### Launches -/

/-- The command has a NUL in a text where none can be. -/
def hasNul (command : Command) : Bool :=
  (command.program :: command.args ++ command.env.flatMap fun e => [e.1, e.2]).any fun text =>
    text.toList.contains '\x00'

/-- The variables with which a command is run. -/
def variablesOf (machine : Machine) (command : Command) : OrderedMap String String :=
  (machine.environment ++ command.env).foldl (fun map (name, value) => map.insert name value) ∅

/-- The number of the process that runs a command; the next ones get the numbers behind it. -/
def firstProcess : Nat := 4242

/-- The process that runs a command: it has nothing to read, and two streams to write to. -/
def processOf (machine : Machine) : Process where
  number := firstProcess
  parents := [firstProcess - 1]
  directory := machine.files.workingDirectory
  channels :=
    [(0, ⟨.device .null, true, false⟩), (1, ⟨.stdout, false, true⟩), (2, ⟨.stderr, false, true⟩)]

/-- What runs a command. -/
def taskOf (machine : Machine) (command : Command) : Task where
  process := machine.processOf
  title := encodedText command.program
  arguments := command.args.map encodedText
  environment :=
    (machine.variablesOf command).entries.map fun (name, value) =>
      encodedText (name ++ "=" ++ value)

/-- The time that every process takes, in nanoseconds, beside the time for which it waits. -/
def processTime : Nat := 1000000

/-- The run of a command: how it ends, and what it leaves behind. -/
def run (machine : Machine) (command : Command) : Except SystemFault (ExitStatus × World) := do
  if hasNul command then throw .nulInArgument
  let task := machine.taskOf command
  let searchPath := ((machine.variablesOf command).get? "PATH").getD Utility.defaultSearchPath
  let path ←
    machine.files.programPath task.process.directory (encodedText searchPath) task.title
  foreseeing (runFile programs interpreterDepth path task) greatestForesight
    { files := machine.files, nextProcess := firstProcess + 1 }

/-- The machine as a launcher. A process is over when all that it started is over. -/
def launch : Launcher Machine := fun command machine =>
  match machine.run command with
  | .error fault => (.error fault, machine)
  | .ok (status, world) =>
    let last := world.ends.foldl (fun time known => max time known.time) world.clock
    let elapsed := .ofNanoseconds (processTime + last)
    (.ok ⟨settled world.stdout, settled world.stderr, elapsed, status⟩,
      { machine with files := world.files })

/-! ### A usual machine -/

/-- The usual directories. -/
def usualDirectories : List Place :=
  [["bin"], ["boot"], ["dev"], ["dev", "fd"], ["etc"], ["home"], ["lib"], ["media"], ["mnt"],
    ["opt"], ["proc"], ["root"], ["run"], ["sbin"], ["srv"], ["sys"], ["tmp"], ["usr"], ["var"],
    ["usr", "bin"], ["usr", "include"], ["usr", "lib"], ["usr", "local"], ["usr", "sbin"],
    ["usr", "share"], ["usr", "local", "bin"], ["usr", "local", "lib"], ["var", "lib"],
    ["var", "log"], ["var", "tmp"]]

/-- The devices by their places. -/
def devices : List (Place × Device) :=
  [(["dev", "null"], .null), (["dev", "zero"], .zero), (["dev", "full"], .full),
    (["dev", "stdin"], .descriptor 0), (["dev", "stdout"], .descriptor 1),
    (["dev", "stderr"], .descriptor 2)] ++
  (List.range 10).map fun n => (["dev", "fd", numeral n], .descriptor n)

/-- The directories that programs are kept in. -/
def programPlaces : List Place := [["bin"], ["usr", "bin"]]

/-- The usual files: the list of users, and the programs. -/
def usualFiles : List (Place × Node) :=
  (["etc", "passwd"], .file (textBytes "root:x:0:0:root:/root:/bin/sh\n") false) ::
    programPlaces.flatMap fun place =>
      programNames.map fun name => (place ++ [name], .file (programBytes name) true)

/-- The directory in which a machine works. -/
def workPlace : Place := ["tmp", "work"]

/-- The places above a place, behind the root. -/
def placesAbove (place : Place) : List Place :=
  (List.range (place.length - 1)).map fun n => place.take (n + 1)

/-- The files with a file at the place that a path names, and with the directories above it. -/
def putFile (files : FileSystem) (path : String) (bytes : List UInt8) : FileSystem :=
  let names := ((encodedText path).splitOn "/").filter fun name => name ≠ "" && name ≠ "."
  let place := (if path.toList.head? = some '/' then [] else workPlace) ++ names
  let missing := (placesAbove place).filter fun p => files.node? p = none
  (missing.foldl (fun files p => files.put p .directory) files).put place (.file bytes false)

/-- The usual files of a machine. -/
def usualSystem : FileSystem where
  nodes :=
    (workPlace :: usualDirectories).map (fun place => (place, Node.directory)) ++
      devices.map (fun (place, device) => (place, .device device)) ++ usualFiles
  workingDirectory := workPlace

/-- A machine with the usual directories and programs, and with further files by their names in the
directory in which it works. -/
def standard (files : List (String × List UInt8)) (environment : List (String × String)) :
    Machine where
  files := files.foldl (fun system (path, bytes) => putFile system path bytes) usualSystem
  environment := environment

end Machine

end RoutineTiming
