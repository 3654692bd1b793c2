import RoutineTiming.Measuring.Adaptive
import RoutineTiming.Measuring.Capabilities
import RoutineTiming.ResultsMatrix
import RoutineTiming.Verdict

/-!
# The run of a plan

A run calibrates the startup overhead and then measures every routine whose requirements are
present, in the order of the plan, at every size. Each value is held against the expected one; a
difference is noticed, but does not end the run.

## Main definitions

* `RunReport` : what a finished run produced.
* `measureCell`, `measureRow`, `measureRows` : one cell, one routine, several routines.
* `run` : the run of a plan.
* `benchmark` : the search for requirements and then the run.
-/

namespace RoutineTiming

/-- What a finished run produced. -/
structure RunReport where
  initTime : Binary64
  matrix : ResultsMatrix

variable {σ : Type}

/-- The notice of a verdict, if it calls for one. -/
def Verdict.notices (verdict : Verdict) (routine : String) (size : Nat) (observed : String) :
    List Notice :=
  match verdict with
  | .differs expected => [.mismatch routine size observed expected]
  | _ => []

/-- One cell: the measurement of a routine at a size, with the verdict on its value. -/
def measureCell (plan : Plan) (invoker : Invoker σ) (settings : Settings) (initTime : Binary64)
    (routine : String) (size : Nat) : Session σ CellResult := do
  let measured ← measureAdaptive invoker plan.runtime settings initTime routine size
  let verdict := plan.expectedTable.check routine size measured.value
  let result := { measured with verified := verdict.verified }
  Session.notifyAll (verdict.notices routine size measured.value)
  Session.notify (.measured routine size result)
  return result

/-- The cells of a routine at several sizes, entered into a matrix. -/
def measureRow (plan : Plan) (invoker : Invoker σ) (settings : Settings) (initTime : Binary64)
    (routine : String) : List Nat → ResultsMatrix → Session σ ResultsMatrix
  | [], matrix => pure matrix
  | size :: sizes, matrix => do
    let result ← measureCell plan invoker settings initTime routine size
    measureRow plan invoker settings initTime routine sizes (matrix.insert routine size result)

/-- The notice that a routine is left out. -/
def skipNotice (capabilities : Capabilities) (routine : Routine) : Notice :=
  let requirement := routine.requires.getD ""
  .skipped routine.name requirement ((capabilities.hintFor requirement).getD "")

/-- The rows of several routines, entered into a matrix. -/
def measureRows (plan : Plan) (invoker : Invoker σ) (capabilities : Capabilities)
    (settings : Settings) (initTime : Binary64) :
    List Routine → ResultsMatrix → Session σ ResultsMatrix
  | [], matrix => pure matrix
  | routine :: routines, matrix =>
    if capabilities.allows routine then do
      let matrix ←
        measureRow plan invoker settings initTime routine.name plan.sizes matrix
      measureRows plan invoker capabilities settings initTime routines matrix
    else do
      Session.notify (skipNotice capabilities routine)
      measureRows plan invoker capabilities settings initTime routines matrix

/-- The run of a plan. -/
def run (plan : Plan) (invoker : Invoker σ) (capabilities : Capabilities) (settings : Settings) :
    Session σ RunReport := do
  let initTime ← calibrate invoker plan.runtime settings
  Session.notify (.calibrated initTime)
  let matrix ← measureRows plan invoker capabilities settings initTime plan.routines {}
  return { initTime, matrix }

/-- The search for the requirements of a plan and then its run. -/
def benchmark (plan : Plan) (invoker : Invoker σ) (fileExists : σ → String → Bool)
    (settings : Settings) : Session σ RunReport := do
  let capabilities ← detect plan invoker fileExists
  run plan invoker capabilities settings

/-- The state of a session before a plan is measured. -/
def Plan.start (plan : Plan) (invoker : σ) : SessionState σ where
  invoker := invoker
  table := plan.iterationTable

end RoutineTiming
