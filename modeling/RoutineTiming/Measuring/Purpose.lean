import RoutineTiming.Plan.Entry
import RoutineTiming.Text.Numeral

/-!
# What a launch is for

The runtime is launched with three arguments: an entry point, a size and a number of iterations.
What a launch is for decides on them.

## Main definitions

* `Purpose` : what a launch is for.
* `Purpose.args` : the arguments of the launch.
-/

namespace RoutineTiming

/-- What a launch is for. -/
inductive Purpose where
  /-- A routine says whether a requirement is present. -/
  | probe (routine : String)
  /-- The startup overhead is measured. -/
  | startup
  /-- A routine is measured. -/
  | measurement (routine : String) (size iterations : Nat)
  deriving DecidableEq, Repr

/-- The arguments of a launch. -/
def Purpose.args (runtime : Runtime) : Purpose → List String
  | .probe routine => [runtime.entryFor routine, "0", "1"]
  | .startup => [runtime.entryFor runtime.init, "0", "0"]
  | .measurement routine size iterations =>
    [runtime.entryFor routine, numeral size, numeral iterations]

end RoutineTiming
