import RoutineTiming.Shell.Builtin.Jobs

/-!
# Builtins for processes

The builtins that set commands for signals and send them, and the one that shows the times that
processes took. A job has no group of processes to which a signal could be sent.

## Main definitions

* `Shell.runTrap`, `Shell.runKill` : signals.
* `Shell.runTimes` : times.
-/

namespace RoutineTiming.Shell

/-! ### Signals -/

/-- The commands for signals are set, taken away if there are none; the status says whether all the
signals are known. -/
def setTraps (action : Option String) : List String → Run Nat
  | [] => return 0
  | name :: rest => do
    match trapNumber? 0 name with
    | some number =>
      setTrap number (action.filter (· ≠ "-"))
      setTraps action rest
    | none =>
      writeError ("trap: " ++ name ++ ": bad trap\n")
      return 1

/-- The builtin `trap`. -/
def runTrap : Builtin := fun arguments => do
  match ← takeNoOptions arguments with
  | [] =>
    listTraps
    return 0
  | [name] => setTraps none [name]
  | action :: names =>
    if (signalDigits? action).isSome then setTraps none (action :: names)
    else setTraps (some action) names

/-- The usage of `kill`. -/
def killUsage : String :=
  "Usage: kill [-s sigspec | -signum | -sigspec] [pid | job]... or\nkill -l [exitstatus]"

/-- A signal is sent to what an argument means; the result says whether there is such a process. -/
def sendTo (signal : Nat) (target : String) : Run Bool := do
  match target.toList with
  | '%' :: _ =>
    let _ ← jobOf target
    return false
  | '-' :: digits =>
    let _ ← numberOf (String.ofList digits)
    return false
  | _ =>
    let number ← numberOf target
    if number = 0 then send (← get).process.number signal else send number signal

/-- A signal is sent to several processes. -/
def sendAll (signal : Nat) (targets : List String) : Run Nat := do
  if targets.isEmpty then fault killUsage
  let results ← targets.mapM fun target => do
    let isSent ← sendTo signal target
    if !isSent then warn "No such process\n"
    return isSent
  return if results.all id then 0 else 1

/-- The names of signals are printed: that of one signal or exit status, or of all of them. -/
def listSignals : List String → Run Nat
  | [] => do
    print "0\n"
    (List.range lastSignal).forM fun n => print (trapName (n + 1) ++ "\n")
    return 0
  | argument :: _ => do
    let n ← numberOf argument
    let signal := if 128 < n then n - 128 else n
    if 0 < signal ∧ signal ≤ lastSignal then print (trapName signal ++ "\n")
    else fault ("invalid signal number or exit status: " ++ argument)
    return 0

/-- The signal of a name that must be known. -/
def signalOf (name : String) : Run Nat := do
  match trapNumber? 1 name with
  | some signal => return signal
  | none => fault ("invalid signal number or name: " ++ name)

/-- The signal that stands behind a dash in the first argument. -/
def leadingSignal? : List String → Option Nat
  | argument :: _ =>
    match argument.toList with
    | '-' :: name => trapNumber? 1 (String.ofList name)
    | _ => none
  | [] => none

/-- The signal that is sent if none is named. -/
def defaultSignal : Nat := 15

/-- The builtin `kill`. -/
def runKill : Builtin := fun arguments => do
  if arguments.isEmpty then fault killUsage
  match leadingSignal? arguments with
  | some signal => sendAll signal arguments.tail
  | none =>
    let (options, targets) ← takeOptions [('l', false), ('s', true)] arguments
    let named ← (options.filter fun o => o.1 = 's').mapM fun o => signalOf o.2
    if options.any fun o => o.1 = 'l' then
      if named.isEmpty ∨ targets.isEmpty then listSignals targets else fault killUsage
    else sendAll (named.getLast?.getD defaultSignal) targets

/-! ### Times -/

/-- The builtin `times`. -/
def runTimes : Builtin := fun _ => do
  print "0m0.000000s 0m0.000000s\n0m0.000000s 0m0.000000s\n"
  return 0

end RoutineTiming.Shell
