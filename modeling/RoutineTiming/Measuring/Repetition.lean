import RoutineTiming.Measuring.Session
import RoutineTiming.RoutineOutput

/-!
# Repeated launches

A measurement launches a routine several times at one iteration count and reduces what it took. The
startup overhead is calibrated in the same way with the routine that does nothing.

## Main definitions

* `Settings` : how measurements are made.
* `measureOnce` : one launch of a routine.
* `collectSamples` : all repetitions at one iteration count.
* `calibrate` : the startup overhead.
-/

namespace RoutineTiming

/-- How measurements are made. -/
structure Settings where
  /-- The number of launches for one measurement. -/
  repetitions : Nat := 10
  /-- A measurement is swamped if it takes less than this multiple of the startup overhead. -/
  swampFactor : Binary64 := 3
  statistic : Statistic := .mean
  /-- The number of times that an iteration count is doubled at most. -/
  maxDoublings : Nat := 20

variable {σ : Type}

/-! ### Routines -/

/-- One launch of a routine. A failure, or output without a value and a timing, ends the session. -/
def measureOnce (invoker : Invoker σ) (runtime : Runtime) (routine : String)
    (size iterations : Nat) : Session σ Measurement := do
  let invocation ← Session.launch invoker runtime (.measurement routine size iterations)
  Session.ofExcept (invocation.ensureSuccess routine)
  let output ← Session.ofExcept (RoutineOutput.parseMeasurement routine invocation.stdout)
  return { value := output.value, real := invocation.elapsed.seconds, user := output.user,
           diagnostics := output.diagnostics }

/-- Further launches of a routine on top of earlier samples, each with its diagnostic lines as
notices. -/
def collectSamples (invoker : Invoker σ) (runtime : Runtime) (routine : String)
    (size iterations : Nat) : (repetitions : Nat) → Samples → Session σ Samples
  | 0, samples => pure samples
  | repetitions + 1, samples => do
    let measurement ← measureOnce invoker runtime routine size iterations
    Session.notifyAll (measurement.diagnostics.map .diagnostic)
    collectSamples invoker runtime routine size iterations repetitions (samples.push measurement)

/-! ### Startup overhead -/

/-- The times of further launches of the routine that does nothing, on top of earlier ones. -/
def collectStartups (invoker : Invoker σ) (runtime : Runtime) :
    (repetitions : Nat) → List Binary64 → Session σ (List Binary64)
  | 0, times => pure times
  | repetitions + 1, times => do
    let invocation ← Session.launch invoker runtime .startup
    Session.ofExcept (invocation.ensureSuccess runtime.init)
    collectStartups invoker runtime repetitions (times ++ [invocation.elapsed.seconds])

/-- The startup overhead of the runtime. -/
def calibrate (invoker : Invoker σ) (runtime : Runtime) (settings : Settings) :
    Session σ Binary64 := do
  let times ← collectStartups invoker runtime settings.repetitions []
  return settings.statistic.reduce times

end RoutineTiming
