import RoutineTiming.Machine.FileSystem
import RoutineTiming.Plan.Text

/-!
# Plan files

A plan is loaded from a file of its text.

## Main definitions

* `Plan.load` : the plan in a file.
-/

namespace RoutineTiming

/-- The plan in a file, if it can be read and run. -/
def Plan.load (fs : FileSystem) (path : String) : Except BenchError Plan :=
  match fs.readText path with
  | .ok text => Plan.ofText text
  | .error fault => .error (.planUnreadable path fault)

end RoutineTiming
