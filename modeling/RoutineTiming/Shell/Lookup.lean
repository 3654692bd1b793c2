import RoutineTiming.Shell.Child

/-!
# Commands by their names

A name stands for a function, a builtin, or a program, which is searched for in the directories of
the variable `PATH`.

## Main definitions

* `Shell.builtinNames`, `Shell.declaringBuiltins` : the builtins.
* `Shell.Found` : what a name stands for.
* `Shell.State.find` : the search for a name.
* `Shell.Programs`, `Shell.execute` : the run of a program.
* `Shell.describe` : a name in words.
-/

namespace RoutineTiming.Shell

/-- The builtins that do not belong to the language. Those for limits and for the control of jobs
are known by their names only. -/
def ordinaryBuiltins : List String :=
  ["[", "alias", "bg", "cd", "chdir", "command", "echo", "false", "fg", "getopts", "hash", "jobs",
    "kill", "printf", "pwd", "read", "test", "true", "type", "ulimit", "umask", "unalias", "wait"]

/-- All builtins. -/
def builtinNames : List String := specialBuiltins ++ ordinaryBuiltins

/-- The builtins whose arguments can be assignments. -/
def declaringBuiltins : List String := ["alias", "export", "local", "readonly"]

/-- What a name stands for. -/
inductive Found where
  | function (body : Script)
  | builtin
  /-- A program, by the path of its file. -/
  | program (path : String)
  /-- Nothing, for a reason. -/
  | nothing (reason : String)

/-- A reason for which no program was found. -/
def searchReason (reason : SystemFault) : String :=
  if reason.isMissing then "not found" else reason.reason

/-- The status of a shell that could not become a program. -/
def searchStatus (reason : SystemFault) : Nat :=
  if reason.isMissing ∨ reason = .nameTooLong ∨ reason = .tooManyLinks then 127 else 126

namespace State

/-- The directories in which programs are searched for. -/
def searchPath (state : State) : String := (state.value? "PATH").getD ""

/-- The path of the program that a name stands for: the name itself if it has a slash, or else that
of a file in the directories of a path. -/
def searchFor (state : State) (path name : String) : Except SystemFault String :=
  if name.toList.contains '/' then .ok name
  else state.world.files.search state.process.directory name .noSuchFile (path.splitOn ":")

/-- What a name stands for that is no function, with programs in the directories of a path. -/
def findBuiltin (state : State) (path name : String) : Found :=
  if builtinNames.contains name then .builtin
  else
    match state.searchFor path name with
    | .ok path => .program path
    | .error fault => .nothing (searchReason fault)

/-- What a name stands for, with programs in the directories of a path. -/
def find (state : State) (path name : String) : Found :=
  match state.functions.lookup name with
  | some body => .function body
  | none => state.findBuiltin path name

/-- The programs that were found by their names. -/
def tracking (state : State) : List (String × String) :=
  if state.trackedBy = state.searchPath then state.tracked else []

end State

/-- The path of a program that was found by its name is remembered. -/
def track (name path : String) : Run Unit :=
  modify fun state =>
    if name.toList.contains '/' then state
    else
      { state with
        tracked := putEntry name path state.tracking
        trackedBy := state.searchPath }

/-- What a name stands for; a program is remembered. -/
def lookUp (skipsFunctions : Bool) (name : String) : Run Found := do
  let state ← get
  let path := state.searchPath
  let found := if skipsFunctions then state.findBuiltin path name else state.find path name
  match found with
  | .program path => track name path
  | _ => pure ()
  return found

/-! ### Programs -/

/-- The programs of a machine by their names. -/
abbrev Programs := String → Option Program

/-- A byte that no text holds. -/
def isControlByte (b : UInt8) : Bool := (b < 32 && (b < 9 || 15 < b) && b ≠ 27) || b = 127

/-- How many bytes of a file tell whether it is a text. -/
def sampleSize : Nat := 128

/-- The first line of a file holds bytes that no text holds. -/
def isBinary (bytes : List UInt8) : Bool :=
  ((bytes.take sampleSize).takeWhile (· ≠ 10)).any isControlByte

/-- The run of the file at a path by a process, where a text that names no interpreter is a script
of the shell. -/
def runText (programs : Programs) (path : String) (task : Task) (world : World) :
    Except SystemFault (ExitStatus × World) := do
  let bytes ← world.files.executable task.process.directory path
  if isBinary bytes then runFile programs interpreterDepth path task world
  else runOrInterpret programs path task world

/-- The process at hand becomes a program, which runs up to its end. If it cannot be run, the shell
has no more to do. -/
def execute (programs : Programs) (path title : String) (arguments : List String) :
    Run ExitStatus := do
  let _ ← flush
  let state ← get
  let ignored := state.traps.filterMap fun t => if t.2 = "" then some t.1 else none
  let process := { state.process with ignored := ignored ++ state.process.ignored }
  let task : Task := { process, title, arguments, environment := state.environment }
  match runText programs path task state.world with
  | .ok (status, world) =>
    let (status, world) := world.cutShort process status
    set { state with world }
    return status
  | .error reason =>
    setStatus (searchStatus reason)
    warn (title ++ ": " ++ searchReason reason)
    throw .over

/-- A program in a process of its own, up to its end. -/
def launch (evaluate : Evaluator) (programs : Programs) (path title : String)
    (arguments : List String) : Run ProcessEnd :=
  inChild evaluate do
    modify fun state =>
      { state with
        traps := state.traps.filter fun t => t.2 = ""
        isSubshell := true }
    throw (.ended (← execute programs path title arguments))

/-! ### Descriptions -/

/-- The path of the programs that every system has. -/
def standardPath : String := "/usr/local/sbin:/usr/local/bin:/usr/sbin:/usr/bin:/sbin:/bin"

/-- What a name would run that is neither a word of the grammar nor an alias: in words, and in as
few as possible. Programs may be searched for by a path of their own. -/
def describeFound (searchPath : Option String) (name : String) :
    Run (Option (String × String)) := do
  let state ← get
  let known := if searchPath.isNone then state.tracking.lookup name else none
  let found ←
    match searchPath with
    | some path => pure (state.find path name)
    | none => lookUp false name
  match found with
  | .function _ => return some (" is a shell function", name)
  | .builtin =>
    if specialBuiltins.contains name then return some (" is a special shell builtin", name)
    else return some (" is a shell builtin", name)
  | .program path =>
    match state.world.files.resolveFrom state.process.directory path with
    | .ok _ =>
      return some ((if known.isSome then " is a tracked alias for " else " is ") ++ path, path)
    | .error _ => return none
  | .nothing _ => return none

/-- What a name would run: in words, and in as few as possible. -/
def describeName (searchPath : Option String) (name : String) : Run (Option (String × String)) := do
  if reservedWords.contains name then return some (" is a shell keyword", name)
  else
    match (← get).aliases.lookup name with
    | some text =>
      return some (" is an alias for " ++ text, "alias " ++ name ++ "=" ++ singleQuoted text)
    | none => describeFound searchPath name

/-- What a name would run is printed, in words or in as few as possible. -/
def describe (inWords : Bool) (searchPath : Option String) (name : String) : Run Nat := do
  match ← describeName searchPath name with
  | some (words, brief) =>
    print ((if inWords then name ++ words else brief) ++ "\n")
    return 0
  | none =>
    if inWords then print (name ++ ": not found\n")
    return 127

end RoutineTiming.Shell
