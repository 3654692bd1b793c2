import RoutineTiming.Shell.Variables

/-!
# Signals and traps

A signal ends a process, unless the process ignores it or the signal is harmless. A shell can have
commands that it runs instead when it gets to the next command, and commands for its exit, which
count as those for signal zero.

## Main definitions

* `Shell.trapName`, `Shell.trapNumber?` : the names of signals, and of the exit.
* `Shell.signalText` : what is said of a process that a signal ended.
* `Shell.receiveAll`, `Shell.send` : signals come, and are sent.
* `Shell.listTraps` : the commands that are set.
-/

namespace RoutineTiming.Shell

/-- The largest number of a signal. -/
def lastSignal : Nat := 64

/-- The signals for programs of their own begin here; their names count from both ends. -/
def firstOwnSignal : Nat := 34

/-- The name of a signal, or of the exit. -/
def trapName (number : Nat) : String :=
  if number = 0 then "EXIT"
  else if number = firstOwnSignal then "RTMIN"
  else if number = lastSignal then "RTMAX"
  else if firstOwnSignal < number ∧ number < 50 then
    "RTMIN+" ++ numeral (number - firstOwnSignal)
  else if 50 ≤ number then "RTMAX-" ++ numeral (lastSignal - number)
  else if number = 16 then "16"
  else (signalName? number).getD (numeral number)

/-- The number of a signal by its digits, if there is such a signal. -/
def signalDigits? (text : String) : Option Nat :=
  if text ≠ "" ∧ text.toList.all Char.isDigit then
    let n := digitsValue 0 text.toList
    if n ≤ lastSignal then some n else none
  else none

/-- The number of a signal, at least a given one, by its digits or its name in either case. -/
def trapNumber? (least : Nat) (text : String) : Option Nat :=
  match signalDigits? text with
  | some n => some n
  | none =>
    ((List.range (lastSignal + 1)).drop least).find? fun n => trapName n = text.toUpper

/-- What is said of a process that a signal ended. -/
def signalText (signal : Nat) : String :=
  match signal with
  | 1 => "Hangup"
  | 2 => "Interrupt"
  | 3 => "Quit"
  | 4 => "Illegal instruction"
  | 5 => "Trace/breakpoint trap"
  | 6 => "Aborted"
  | 7 => "Bus error"
  | 8 => "Floating point exception"
  | 9 => "Killed"
  | 10 => "User defined signal 1"
  | 11 => "Segmentation fault"
  | 12 => "User defined signal 2"
  | 13 => "Broken pipe"
  | 14 => "Alarm clock"
  | 15 => "Terminated"
  | 16 => "Stack fault"
  | 24 => "CPU time limit exceeded"
  | 25 => "File size limit exceeded"
  | 26 => "Virtual timer expired"
  | 27 => "Profiling timer expired"
  | 29 => "I/O possible"
  | 30 => "Power failure"
  | 31 => "Bad system call"
  | n =>
    if firstOwnSignal ≤ n then "Real-time signal " ++ numeral (n - firstOwnSignal)
    else "Unknown signal " ++ numeral n

/-- The time of the world is set. -/
def setClock (clock : Nat) : Run Unit :=
  modify fun state => { state with world := { state.world with clock } }

/-- The signals that other processes sent up to now come to the shell. One that ends it does so at
the time at which it was sent. -/
def receiveAll : Run Unit := do
  let state ← get
  let (due, world) := state.world.takeDue state.process.number
  if due.isEmpty then return ()
  else
    set { state with world }
    due.forM fun sent => do
      match ← attempt (receive sent.signal) with
      | .ok () => pure ()
      | .error stop =>
        setClock sent.time
        throw stop

/-- A signal is sent to a process; the result says whether there is such a process. -/
def send (number signal : Nat) : Run Bool := do
  let state ← get
  if number = state.process.number then
    receive signal
    return true
  else if state.process.parents.contains number then
    set { state with world := state.world.postBack number signal }
    return true
  else
    match state.world.ends.find? fun known => known.process = number with
    | none => return false
    | some known =>
      set { state with world := state.world.postTo known signal }
      let isKept (job : Job) : Bool :=
        !job.isDone && job.ends.any fun known => known.process = number
      return decide (state.world.clock < known.time) || state.jobs.any isKept

/-- A text in single quotes, where single quotes in it are put in double ones. -/
def singleQuoted (text : String) : String :=
  String.ofList ('\'' :: go false text.toList)
where
  /-- The rest of a text inside double or single quotes. -/
  go (inDouble : Bool) : List Char → List Char
    | [] => if inDouble then ['"'] else ['\'']
    | c :: rest =>
      if (c = '\'') = inDouble then c :: go inDouble rest
      else if inDouble then '"' :: '\'' :: c :: go false rest
      else '\'' :: '"' :: c :: go true rest

/-- The commands that are set for signals and for the exit are printed. -/
def listTraps : Run Unit := do
  let traps := (← get).traps
  (List.range (lastSignal + 1)).forM fun number =>
    match traps.lookup number with
    | some action => print ("trap -- " ++ singleQuoted action ++ " " ++ trapName number ++ "\n")
    | none => return ()

/-- There are commands to run on a signal or at the exit. -/
def State.hasTraps (state : State) : Bool := state.traps.any fun t => t.2 ≠ ""

/-- The commands for a signal are set, none to ignore it, or taken away. -/
def setTrap (number : Nat) (action : Option String) : Run Unit :=
  modify fun state =>
    let others := state.traps.filter fun t => t.1 ≠ number
    { state with traps := match action with
        | some action => (number, action) :: others
        | none => others }

end RoutineTiming.Shell
