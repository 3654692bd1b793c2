import RoutineTiming.Environment
import RoutineTiming.Invocation
import RoutineTiming.Process.Status

/-!
# Launching processes

A command is a program with arguments and the variables that are set for it. A launcher runs a
command to its end, or tells why it could not be started. The runtime of a plan is an invoker by way
of a launcher: an interrupted process cancels the run whatever it wrote, and the output of any other
process is decoded, standard output first.

## Main definitions

* `Command` : what is launched.
* `FinishedProcess`, `Launcher` : a process that ran, and a way to run it.
* `Command.answer` : a finished process as an invocation.
* `Runtime.invoker` : the runtime of a plan as an invoker.
-/

namespace RoutineTiming

/-- A program with its arguments and the variables that are set for it, of which later ones
count. -/
structure Command where
  program : String
  args : List String
  env : List (String × String) := []

/-- A process that ran to its end. -/
structure FinishedProcess where
  stdout : List UInt8
  stderr : List UInt8
  elapsed : Duration
  status : ExitStatus

/-- A way to run commands. -/
abbrev Launcher (σ : Type) := Command → σ → Except SystemFault FinishedProcess × σ

/-- The last value that is set for a variable. -/
def lastValue? (env : List (String × String)) (name : String) : Option String :=
  (env.reverse.find? fun e => e.1 = name).map Prod.snd

/-- The invocation that a finished process amounts to. -/
def FinishedProcess.invocation (process : FinishedProcess) (context : String) :
    Except BenchError Invocation :=
  if process.status.isInterrupted then
    .error .cancelled
  else do
    let stdout ← decodeOutput context process.stdout
    let stderr ← decodeOutput context process.stderr
    return { stdout, stderr, elapsed := process.elapsed, failure := process.status.failure? }

/-- What the end of a launch amounts to. -/
def launchAnswer (program context : String) :
    Except SystemFault FinishedProcess → Except BenchError Invocation
  | .error fault => .error (.launchFailed program fault)
  | .ok process => process.invocation context

/-- The runtime of a plan as an invoker: its own arguments stand in front of those of the
invocation. -/
def Runtime.invoker {σ : Type} (runtime : Runtime) (env : List (String × String))
    (launcher : Launcher σ) : Invoker σ := fun args state =>
  let (finished, state) :=
    launcher { program := runtime.program, args := runtime.args ++ args, env } state
  (launchAnswer runtime.program (args.head?.getD runtime.program) finished, state)

end RoutineTiming
