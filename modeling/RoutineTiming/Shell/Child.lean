import RoutineTiming.Shell.Grammar
import RoutineTiming.Shell.Redirect
import RoutineTiming.Shell.Signal

/-!
# Shells inside shells

A shell evaluates texts of commands, and runs others of its commands in processes of their own,
which are shells like it. The evaluation of a single command is a parameter here.

## Main definitions

* `Shell.Flags`, `Shell.Evaluator` : a way to evaluate a command.
* `Shell.evaluateText`, `Shell.evaluateFile` : the evaluation of a text.
* `Shell.handleSignals` : the commands for signals that came.
* `Shell.finished` : a shell up to its end.
* `Shell.inChild` : commands in a process of their own.
* `Shell.awaitEnds`, `Shell.inBackground` : the shell waits for processes, or does not.
* `Shell.captureWith` : the output of commands.
-/

namespace RoutineTiming.Shell

/-- What an evaluation depends on beside the command. -/
structure Flags where
  /-- The status of the command is looked at, so that a failure does not end the shell. -/
  isTested : Bool := false
  /-- The shell ends behind the command. -/
  isLast : Bool := false

/-- A way to evaluate a command. -/
abbrev Evaluator := Script → Flags → Run Nat

/-! ### Texts -/

/-- The next commands of a source, and what is left of it. -/
def nextCommands (source : Source) : Run (Option Script × Source) := do
  let state ← get
  let source :=
    if state.aliases.isEmpty ∧ source.aliases.isEmpty then
      { source with documents := state.documents }
    else { Source.ofText source.rest state.aliases state.documents with line := source.line }
  match readLine source with
  | .ok (script, source) =>
    modify fun state => { state with documents := source.documents }
    return (script, source)
  | .error syntaxFault =>
    modify fun state => { state with line := syntaxFault.line }
    fault ("Syntax error: " ++ syntaxFault.text)

/-- The commands of a text, one after the other, where the flags for the last one are as given. -/
def evaluateText (evaluate : Evaluator) (text : String) (flags : Flags) : Run Nat :=
  repeated (fun (source, status) => do
    match ← nextCommands source with
    | (none, _) => return .inr status
    | (some script, source) =>
      let result ← evaluate script { flags with isLast := flags.isLast && source.isAtEnd }
      return .inl (source, if script.isNothing then status else result))
    (Source.ofText text.toList, 0)

/-- The commands of a file, which can be left like a function. -/
def evaluateFile (evaluate : Evaluator) (text : String) : Run Nat := do
  match ← attempt (evaluateText evaluate text {}) with
  | .error .return => return (← get).status
  | result => conclude result

/-! ### Traps -/

/-- The commands for a signal; the status is as before unless they leave a function. -/
def handleSignal (evaluate : Evaluator) (action : String) : Run Unit := do
  let state ← get
  let status := state.savedStatus.getD state.status
  set { state with savedStatus := some status }
  let resume (keepsStatus : Bool) : Run Unit :=
    modify fun s =>
      { s with
        status := if keepsStatus then s.status else status
        savedStatus := state.savedStatus }
  match ← attempt (evaluateText evaluate action {}) with
  | .ok _ => resume false
  | .error .return =>
    resume true
    throw .return
  | .error (.leave loops) =>
    resume false
    throw (.leave loops)
  | .error (.resume loops) =>
    resume false
    throw (.resume loops)
  | .error stop => throw stop

/-- The commands for the signals that came. -/
def handleSignals (evaluate : Evaluator) : Run Unit := do
  receiveAll
  let state ← get
  match state.pending with
  | [] => return ()
  | pending =>
    set { state with pending := [] }
    (pending.mergeSort (· ≤ ·)).forM fun signal =>
      match state.traps.lookup signal with
      | some action => if action = "" then return () else handleSignal evaluate action
      | none => return ()

/-! ### The end of a shell -/

/-- The end of a shell is prepared: an exit has the status that was asked for. -/
def settleExit (stop : Stop) : Run Unit :=
  modify fun state =>
    match stop, state.savedStatus with
    | .exit, some status => { state with status, savedStatus := none, loopDepth := 0 }
    | _, _ => { state with savedStatus := none, loopDepth := 0 }

/-- How many statuses there are. -/
def statusCount : Nat := 256

/-- The end of a shell that stopped as given, with the commands for its exit. -/
def atExit (evaluate : Evaluator) (stop : Stop) : Run ExitStatus := do
  match stop with
  | .ended status => return status
  | stop =>
    settleExit stop
    let state ← get
    let status := state.status
    match state.traps.lookup 0 with
    | some action =>
      setTrap 0 none
      modify fun state => { state with savedStatus := some status }
      match ← attempt (evaluateText evaluate action {}) with
      | .error (.ended status) => return status
      | .error .fault => return .exited ((← get).status % statusCount)
      | .error .over => return .exited ((← get).status % statusCount)
      | .error .exit =>
        let state ← get
        return .exited (state.savedStatus.getD state.status % statusCount)
      | _ => return .exited (status % statusCount)
    | none => return .exited (status % statusCount)

/-- A shell up to its end: how it ends, and what becomes of it. -/
def finished (evaluate : Evaluator) (action : Run Nat) (state : State) : ExitStatus × State :=
  let whole : Run ExitStatus := do
    let stop ←
      match ← attempt action with
      | .ok status =>
        setStatus status
        pure Stop.over
      | .error stop => pure stop
    let status ← atExit evaluate stop
    let _ ← flush
    return status
  match whole state with
  | (.ok status, state) => (status, state)
  | (.error (.ended status), state) => (status, state)
  | (.error _, state) => (.exited (state.status % statusCount), state)

/-! ### Processes -/

/-- The number by which a shell knows how a process ended. -/
def statusNumber : ExitStatus → Nat
  | .exited code => code
  | .signaled signal _ => 128 + signal

/-- The shell says of processes that a signal ended them, unless that is usual. -/
def announce (ends : List ProcessEnd) : Run Unit :=
  (ends.mergeSort fun a b => decide (a.time ≤ b.time)).forM fun known =>
    match known.status with
    | .signaled signal _ =>
      if signal = interruption ∨ signal = pipeSignal then return ()
      else writeError (signalText signal ++ "\n")
    | .exited _ => return ()

/-- The shell learns of the jobs that are over. -/
def reap : Run Unit :=
  modify fun state => { state with jobs := reaped state.jobs state.world.clock }

/-- The shell waits for processes up to the end of the last one, and knows by a number how that one
in the order given ended. They had a slot among the jobs. -/
def awaitEnds (ends : List ProcessEnd) : Run Nat := do
  modify fun state =>
    { state with
      world := state.world.reach (ends.foldl (fun time known => max time known.time) 0)
      jobs := withoutSlot state.jobs (freeSlot state.jobs) }
  receive childSignal
  receiveAll
  reap
  announce ends
  return (ends.getLast?.map fun known => statusNumber known.status).getD 0

/-- The shell that a shell starts for commands of its own. Only the signals to be ignored stay. -/
def State.child (state : State) : State :=
  let process := state.process
  { state with
    process :=
      { process with
        number := state.world.nextProcess
        parents := process.number :: process.parents }
    world := { state.world with nextProcess := state.world.nextProcess + 1 }
    isSubshell := true
    traps := state.traps.filter fun t => t.2 = ""
    pending := []
    jobs := []
    savedStatus := none
    printed := [] }

/-- Commands in a process of their own, up to its end. -/
def inChild (evaluate : Evaluator) (action : Run Nat) : Run ProcessEnd := do
  let _ ← flush
  let state ← get
  let whole : Run Nat := do
    receiveAll
    action
  let (status, child) := finished evaluate whole state.child
  set { state with world := child.world.release (child.process.channels.map Prod.snd) }
  return ⟨child.process.number, child.world.clock, status⟩

/-- How many nanoseconds pass before a process in the background does something. -/
def backgroundDelay : Nat := 1000000

/-- The signals that processes in the background ignore. -/
def backgroundIgnored : List Nat := [2, 3]

/-- Processes are started that the shell does not wait for. They have nothing to read. -/
def inBackground (start : Run (List ProcessEnd)) : Run Unit := do
  let _ ← flush
  let outer ← get
  set
    { outer with
      process :=
        { outer.process.connect 0 ⟨.device .null, true, false⟩ with
          ignored := backgroundIgnored ++ outer.process.ignored }
      world :=
        { outer.world with clock := outer.world.clock + backgroundDelay, isBackground := true } }
  let ends ← start
  let world := (← get).world
  let slot := freeSlot outer.jobs
  let signals : List SentSignal :=
    ends.map fun known => ⟨known.time, outer.process.number, childSignal⟩
  set
    { outer with
      world :=
        { world with
          clock := outer.world.clock
          isBackground := outer.world.isBackground
          patience := outer.world.patience
          ends := ends ++ world.ends
          signals := world.signals ++ signals }
      jobs := { slot, ends } :: withoutSlot outer.jobs slot
      lastJob := ends.getLast?.map ProcessEnd.process }
  receiveAll

/-- The output of commands, without the ends of lines at its end. -/
def captureWith (evaluate : Evaluator) : Capture := fun script => do
  if script.isNothing then return ""
  let state ← get
  let (reader, writer, world) := state.world.openPipe {}
  set { state with world }
  let known ← inChild evaluate do
    setChannel 1 (some writer)
    evaluate script { isLast := true }
  let outputStatus ← awaitEnds [known]
  modify fun state => { state with outputStatus }
  let state ← get
  match state.world.takeRest reader with
  | .ok (bytes, world) =>
    set { state with world }
    let text := (bytes.filter (· ≠ 0)).reverse.dropWhile (· = 10)
    return byteText text.reverse
  | .error _ => return ""

end RoutineTiming.Shell
