import RoutineTiming.Shell.Builtin

/-!
# Builtins that control what is run

The builtins that run other commands, and those that leave loops, functions and the shell. The
evaluation of commands is a parameter here.

## Main definitions

* `Shell.runExit`, `Shell.runReturn`, `Shell.runJump` : the ends of what is being run.
* `Shell.runEval`, `Shell.runDot`, `Shell.runExec` : the run of other commands.
* `Shell.builtin?` : the builtin of a name.
* `Shell.callBuiltin` : a builtin with its output.
-/

namespace RoutineTiming.Shell

/-! ### Ends -/

/-- The builtin `exit`. -/
def runExit : Builtin := fun arguments => do
  match arguments with
  | argument :: _ =>
    let status ← numberOf argument
    modify fun state => { state with savedStatus := some status }
  | [] => pure ()
  throw .exit

/-- The builtin `return`. -/
def runReturn : Builtin := fun arguments => do
  match arguments with
  | argument :: _ => setStatus (← numberOf argument)
  | [] => pure ()
  throw .return

/-- The builtins that jump out of loops. Outside of loops they do nothing. -/
def runJump (stop : Nat → Stop) : Builtin := fun arguments => do
  let count ←
    match arguments with
    | argument :: _ =>
      let n ← numberOf argument
      if n = 0 then badNumber argument
      pure n
    | [] => pure 1
  let loops := min count (← get).loopDepth
  if loops = 0 then return 0
  else
    setStatus 0
    throw (stop loops)

/-! ### Other commands -/

/-- The builtin `eval`. -/
def runEval (evaluate : Evaluator) (flags : Flags) : Builtin := fun arguments =>
  evaluateText evaluate (" ".intercalate arguments) { isTested := flags.isTested }

/-- The path of a file of commands: by itself if it has a slash, else by the search path. -/
def findFile (state : State) (name : String) : Option String :=
  if name.toList.contains '/' then some name
  else
    (state.searchPath.splitOn ":").findSome? fun directory =>
      let path := inDirectory directory name
      match state.world.files.resolveFrom state.process.directory path with
      | .ok (_, .file ..) => some path
      | _ => none

/-- The text of the file at a path. Nothing can be read from a directory. -/
def takeFile (path : String) : Run String := do
  let state ← get
  match state.process.openFile .read path state.world with
  | .error reason => openFault .read path reason
  | .ok (channel, world) =>
    match world.takeRest channel with
    | .ok (bytes, world) =>
      set { state with world }
      return scriptText bytes
    | .error _ => return ""

/-- The builtin of a dot, which runs the commands in a file. Complaints name the file. -/
def runDot (evaluate : Evaluator) : Builtin := fun arguments => do
  match ← takeNoOptions arguments with
  | [] => return 0
  | name :: _ =>
    match findFile (← get) name with
    | none => fault (name ++ ": not found")
    | some path =>
      let text ← takeFile path
      modify fun state => { state with builtin := some path }
      evaluateFile evaluate text

/-- The builtin `exec`. -/
def runExec (programs : Programs) : Builtin := fun arguments => do
  match arguments with
  | [] => return 0
  | name :: arguments =>
    let state ← get
    match state.searchFor state.searchPath name with
    | .ok path => throw (.ended (← execute programs path name arguments))
    | .error reason =>
      setStatus (searchStatus reason)
      warn (name ++ ": " ++ searchReason reason)
      throw .over

/-! ### Builtins by their names -/

/-- The builtin of a name. -/
def builtin? (programs : Programs) (evaluate : Evaluator) (flags : Flags) (name : String) :
    Option Builtin :=
  match name with
  | "exit" => some runExit
  | "return" => some runReturn
  | "break" => some (runJump .leave)
  | "continue" => some (runJump .resume)
  | "eval" => some (runEval evaluate flags)
  | "." => some (runDot evaluate)
  | "exec" => some (runExec programs)
  | name => plainBuiltin? name

/-- A builtin with its output. What it printed is written even if it stops. -/
def callBuiltin (name : String) (builtin : Builtin) (arguments : List String) : Run Nat := do
  let outer := (← get).builtin
  modify fun state => { state with builtin := some name }
  let close : Run Unit := modify fun state => { state with builtin := outer }
  match ← attempt (builtin arguments) with
  | .ok status =>
    let isWritten ← flush
    if !isWritten then warn (name ++ ": I/O error")
    close
    return if isWritten then status else status ||| 1
  | .error stop =>
    let _ ← flush
    close
    throw stop

end RoutineTiming.Shell
