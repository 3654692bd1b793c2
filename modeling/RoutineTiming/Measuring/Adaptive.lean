import RoutineTiming.Measuring.Repetition

/-!
# Measurements at an adapted iteration count

A routine that is too fast drowns in the startup overhead. Its measurement is then thrown away, its
iteration count doubled, and the measurement made again, until it stands out from the overhead or
the count cannot be doubled once more.

## Main definitions

* `measureRound` : one measurement at the count of the table.
* `measureAdaptive` : measurements up to one that is not swamped.
-/

namespace RoutineTiming

variable {σ : Type}

/-- One measurement of a routine at a size, with the count of the table. -/
def measureRound (invoker : Invoker σ) (runtime : Runtime) (settings : Settings)
    (initTime : Binary64) (routine : String) (size : Nat) : Session σ CellResult := do
  let table ← Session.table
  match table.get? routine size with
  | none => Session.fail (.planRefused (.noIterations routine size))
  | some iterations =>
    let samples ←
      collectSamples invoker runtime routine size iterations settings.repetitions {}
    return samples.aggregate iterations initTime settings.statistic

/-- The error that a routine is still swamped. -/
def notConverged (routine : String) (size : Nat) (result : CellResult) : BenchError :=
  .noConvergence routine size result.iterations

/-- Measurements up to one that takes at least the threshold; the count is doubled up to
`doublings` times, and not if it is the largest one or zero. -/
def measureUpTo (invoker : Invoker σ) (runtime : Runtime) (settings : Settings)
    (initTime threshold : Binary64) (routine : String) (size : Nat) :
    (doublings : Nat) → Session σ CellResult
  | 0 => do
    let result ← measureRound invoker runtime settings initTime routine size
    if threshold ≤ result.rawReal then
      return result
    else
      Session.fail (notConverged routine size result)
  | doublings + 1 => do
    let result ← measureRound invoker runtime settings initTime routine size
    if threshold ≤ result.rawReal then
      return result
    else if doubled result.iterations ≤ result.iterations then
      Session.fail (notConverged routine size result)
    else
      Session.modifyTable fun table => table.double routine size
      Session.notify
        (.swamped routine size result.rawReal initTime (doubled result.iterations))
      measureUpTo invoker runtime settings initTime threshold routine size doublings

/-- Measurements of a routine at a size up to one that is not swamped by the startup overhead. -/
def measureAdaptive (invoker : Invoker σ) (runtime : Runtime) (settings : Settings)
    (initTime : Binary64) (routine : String) (size : Nat) : Session σ CellResult :=
  measureUpTo invoker runtime settings initTime (settings.swampFactor * initTime) routine size
    settings.maxDoublings

end RoutineTiming
