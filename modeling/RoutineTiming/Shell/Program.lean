import RoutineTiming.Shell.Evaluation

/-!
# The shell as a program

The arguments of a shell say where its commands come from: from one of the arguments, from a file,
or from the standard input.

## Main definitions

* `Shell.ShellArguments`, `Shell.readArguments` : what the arguments say.
* `Shell.runShell` : the shell as a program.
-/

namespace RoutineTiming.Shell

/-- What the arguments of a shell say. -/
structure ShellArguments where
  /-- The commands are given as an argument. -/
  isGiven : Bool := false
  arguments : List String := []

/-- The options of some letters are turned on or off, as for the builtin `set`; the letter `c` says
that the commands are given. -/
def readShellLetters (on : Bool) (letters : List Char) (behind : List String) :
    Run (Bool × List String) := do
  let others := letters.filter fun c => c ≠ 'c' && c ≠ 'l'
  let behind ← setLetters on others behind
  return (letters.contains 'c', behind)

/-- The arguments of a shell behind at most a number of options. -/
def readShellOptions : (count : Nat) → ShellArguments → Run ShellArguments
  | 0, read => return read
  | count + 1, read =>
    match read.arguments with
    | [] => return read
    | argument :: rest =>
      let letters (on : Bool) (text : List Char) : Run ShellArguments := do
        let (isGiven, arguments) ← readShellLetters on text rest
        readShellOptions count { isGiven := read.isGiven || isGiven, arguments }
      match argument.toList with
      | ['-'] => return { read with arguments := rest }
      | ['-', '-'] => return { read with arguments := rest }
      | '-' :: text => letters true text
      | '+' :: text => letters false text
      | _ => return read

/-- The text on the standard input. -/
def takeInput : Run String := do
  let state ← get
  match (state.process.openChannel 0).bind state.world.takeRest with
  | .ok (bytes, world) =>
    set { state with world }
    return scriptText bytes
  | .error _ => return ""

/-- The title and the arguments of the shell are set. -/
def setTitle (title : String) (arguments : List String) : Run Unit := do
  modify fun state => { state with title }
  setArguments arguments

/-- The commands on the standard input are run. -/
def runInput (evaluate : Evaluator) : Run Nat := do
  evaluateText evaluate (← takeInput) {}

/-- The commands that the arguments of a shell name are run. -/
def runArguments (evaluate : Evaluator) (arguments : List String) : Run Nat := do
  modify fun state => { state with isStarting := true }
  let read ← readShellOptions arguments.length { arguments }
  modify fun state => { state with isStarting := false }
  let state ← get
  let readsInput := state.hasOption "stdin"
  if (state.options.lookup "monitor").isNone ∧ state.hasOption "interactive" then
    setOption "monitor" true
  match read.isGiven, read.arguments with
  | true, [] => fault "-c requires an argument"
  | true, text :: rest =>
    match rest with
    | title :: arguments => setTitle title arguments
    | [] => pure ()
    settleMonitor
    let status ← evaluateText evaluate text { isLast := !readsInput }
    if readsInput then runInput evaluate else return status
  | false, [] =>
    setOption "stdin" true
    settleMonitor
    runInput evaluate
  | false, path :: rest =>
    if readsInput then
      setArguments read.arguments
      settleMonitor
      runInput evaluate
    else
      let text ← takeFile path
      setTitle path rest
      settleMonitor
      evaluateText evaluate text {}

/-- Where options are looked for next must be a number, if the environment says anything of it. -/
def checkEnvironment (environment : List String) : Run Unit :=
  (environment.filterMap splitEntry?).forM fun (name, value) => do
    let _ ← placeAfter name (some value)

/-- The shell of a task. -/
def startState (task : Task) (world : World) : State where
  world := world
  process := task.process
  title := task.title
  identity := task.process.number
  bindings :=
    importVariables (task.process.parents.head?.getD 1) (placePath task.process.directory)
      task.environment
  line := 0

/-- The shell as a program. -/
def runShell (evaluate : Evaluator) : Program := fun task world =>
  let whole : Run Nat := do
    checkEnvironment task.environment
    runArguments evaluate task.arguments
  let (status, state) := finished evaluate whole (startState task world)
  (status, state.world)

end RoutineTiming.Shell
