import RoutineTiming.Shell.Builtin.Basic
import RoutineTiming.Shell.Child

/-!
# Builtins for jobs

The builtin that waits for jobs. A signal for which there are commands ends the waiting.

## Main definitions

* `Shell.jobOf` : the job that an argument means.
* `Shell.passUntil`, `Shell.runWait` : waiting.
-/

namespace RoutineTiming.Shell

/-- The job that an argument means. -/
def jobOf (argument : String) : Run Job := do
  match findJob (← get).jobs argument with
  | .ok job => return job
  | .error reason => fault reason.message

/-- Time passes until a moment, or until a signal comes before it for which there are commands: the
status for that signal. -/
def passUntil (moment : Nat) : Run (Option Nat) := do
  go (← get).world.signals.length
where
  /-- Time passes up to at most a number of signals. -/
  go : Nat → Run (Option Nat)
    | 0 => arrive
    | count + 1 => do
      let state ← get
      match state.world.nextSignal? state.process.number with
      | none => arrive
      | some sent =>
        if moment ≤ sent.time then arrive
        else
          set { state with world := state.world.reach sent.time }
          receiveAll
          match (← get).pending.getLast? with
          | some signal => return some (128 + signal)
          | none => go count
  /-- The moment has come. -/
  arrive : Run (Option Nat) := do
    modify fun state => { state with world := state.world.reach moment }
    receiveAll
    return none

/-- Jobs of the shell are marked as those that it has waited for. -/
def markAwaited (isMeant : Job → Bool) : Run Unit := do
  reap
  modify fun state =>
    { state with
      jobs := state.jobs.map fun job =>
        if isMeant job then { job with isAwaited := true } else job }

/-- The job that the shell is to wait for, by its name or by the number of its last process, which
can be unknown. -/
def awaitedJob? (argument : String) : Run (Option Job) := do
  if argument.toList.head? = some '%' then return some (← jobOf argument)
  else
    let number ← numberOf argument
    return (← get).jobs.find? fun job => job.process = number

/-- The shell waits for jobs, one after the other; the status is that of the last one that is known,
or else as given. -/
def waitForEach (status : Nat) : List String → Run Nat
  | [] => return status
  | argument :: rest => do
    match ← awaitedJob? argument with
    | none => waitForEach status rest
    | some job =>
      match ← passUntil job.finish with
      | some interrupted =>
        reap
        return interrupted
      | none =>
        if !job.isDone then announce job.ends
        markAwaited fun other => other.slot = job.slot
        waitForEach (statusNumber job.status) rest

/-- The shell waits for all jobs. -/
def waitForAll : Run Nat := do
  let last := (← get).jobs.foldl (fun time job => max time job.finish) 0
  match ← passUntil last with
  | some interrupted =>
    markAwaited Job.isDone
    return interrupted
  | none =>
    markAwaited fun _ => true
    return 0

/-- The builtin `wait`. -/
def runWait : Builtin := fun arguments => do
  match ← takeNoOptions arguments with
  | [] => waitForAll
  | arguments => waitForEach 127 arguments

end RoutineTiming.Shell
