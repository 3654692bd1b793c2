import RoutineTiming.Machine.Utility.Processes
import RoutineTiming.Machine.Utility.Texts
import RoutineTiming.Shell.Program

/-!
# The programs of a machine

The programs that a machine has are a shell and some utilities. Programs can run others, down to a
depth.

## Main definitions

* `utilities` : the utilities by their names.
* `programsAt` : the programs of a machine.
-/

namespace RoutineTiming

/-- The utilities by their names. -/
def utilities : List (String × Utility Nat) :=
  [("true", Utility.nothing 0), ("false", Utility.nothing 1), ("echo", Utility.echo),
    ("cat", Utility.cat), ("sleep", Utility.sleep)]

/-- The names of the programs that run others. -/
def runnerNames : List String := ["sh", "dash", "env"]

/-- The names of all programs. -/
def programNames : List String := runnerNames ++ utilities.map Prod.fst

/-- How deep commands can stand inside one another in a shell. -/
def commandDepth : Nat := 8000

/-- The programs of a machine by their names, where programs run one another down to a depth. -/
def programsAt : (depth : Nat) → String → Option Program
  | 0, _ => none
  | depth + 1, name =>
    let programs := programsAt depth
    match name with
    | "sh" => some (Shell.runShell (Shell.evaluator programs commandDepth))
    | "dash" => some (Shell.runShell (Shell.evaluator programs commandDepth))
    | "env" => some (Utility.env programs)
    | name => (utilities.lookup name).map Utility.program

/-- How deep programs can run inside one another. -/
def programDepth : Nat := 50

/-- The programs of a machine by their names. -/
def programs : String → Option Program := programsAt programDepth

end RoutineTiming
