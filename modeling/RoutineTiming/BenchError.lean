import RoutineTiming.Plan.Fault
import RoutineTiming.SystemFault

/-!
# Why a run stops

The errors that end a run, each with the facts that its message states.

## Main definitions

* `OutputFault` : why the output of a routine was refused.
* `BenchError` : all errors.
* `BenchError.message` : the wording.
-/

namespace RoutineTiming

/-- Why the output of a routine was refused. -/
inductive OutputFault where
  /-- There are too few lines for a value and a timing. -/
  | tooFewLines (count : Nat)
  /-- The last line is not a number of microseconds. -/
  | badTiming (line : String)
  deriving DecidableEq, Repr

/-- The wording of the fault. -/
def OutputFault.message : OutputFault → String
  | .tooFewLines count =>
    "expected a value line and a timing line, got " ++ numeral count ++ " line(s)"
  | .badTiming line =>
    "timing line " ++ quoted line ++ " is not a whole number of microseconds"

/-- An error that ends a run. -/
inductive BenchError where
  /-- A process wrote bytes that are not UTF-8. -/
  | undecodable (context : String) (bytes : List UInt8)
  /-- A probe wrote to its standard error. -/
  | noisyProbe (name stderr : String)
  /-- The output of a routine was refused. -/
  | badOutput (routine : String) (fault : OutputFault)
  /-- A routine exited unsuccessfully. -/
  | routineFailed (routine status stderr : String)
  /-- A program was not started. -/
  | launchFailed (program : String) (fault : SystemFault)
  /-- The startup overhead still dominates at the last iteration count. -/
  | noConvergence (routine : String) (size iterations : Nat)
  /-- The plan file was not read. -/
  | planUnreadable (path : String) (fault : SystemFault)
  /-- The plan was refused. -/
  | planRefused (fault : PlanFault)
  /-- A process was interrupted. -/
  | cancelled
  deriving DecidableEq, Repr

/-- The wording of the error, where it is given what the reader of TOML says of a text that it
refuses. -/
def BenchError.message (textReport : String → String) : BenchError → String
  | .undecodable context bytes =>
    "Failed to decode output of " ++ context ++ " as UTF-8 (raw bytes: [" ++
      ", ".intercalate (bytes.map fun b => numeral b.toNat) ++ "])"
  | .noisyProbe name stderr =>
    "Probe '" ++ name ++ "' wrote to stderr, refusing to continue: " ++ stderr
  | .badOutput routine fault =>
    "Could not parse output of routine '" ++ routine ++ "': " ++ fault.message
  | .routineFailed routine status stderr =>
    "Routine '" ++ routine ++ "' failed (" ++ status ++ "): " ++ stderr
  | .launchFailed program fault => "Failed to launch '" ++ program ++ "': " ++ fault.message
  | .noConvergence routine size iterations =>
    "Routine '" ++ routine ++ "' at size " ++ numeral size ++
      " is still swamped by startup overhead after doubling to " ++ numeral iterations ++
      " iterations"
  | .planUnreadable path fault =>
    "Failed to read plan file " ++ path ++ ": " ++ fault.message
  | .planRefused fault => "Invalid benchmark plan: " ++ fault.message textReport
  | .cancelled => "Interrupted"

end RoutineTiming
