import RoutineTiming.Report.Magnitude
import RoutineTiming.Text.Painted
import RoutineTiming.Text.Quoted

/-!
# Notices on the console

While a plan is measured it gives notices. A console writes each notice as one line: progress to
standard output, or to standard error where standard output is kept for a report, and warnings
always to standard error. Diagnostic lines of routines are written only if asked for.

## Main definitions

* `Notice` : what is reported during a run.
* `Colors`, `Console` : where notices go and how they look.
* `Console.print` : what a notice adds to the two streams.
-/

namespace RoutineTiming

/-- Something reported during a run. -/
inductive Notice where
  /-- The startup overhead was measured. -/
  | calibrated (initTime : Binary64)
  /-- A cell was measured. -/
  | measured (routine : String) (size : Nat) (result : CellResult)
  /-- A routine is left out because a requirement is missing. -/
  | skipped (routine requirement hint : String)
  /-- A routine printed a line before its value. -/
  | diagnostic (line : String)
  /-- A measurement was too close to the startup overhead and is repeated. -/
  | swamped (routine : String) (size : Nat) (rawReal initTime : Binary64) (iterations : Nat)
  /-- A routine returned another value than the expected one. -/
  | mismatch (routine : String) (size : Nat) (observed expected : String)
  deriving DecidableEq

/-- The text written to the two output streams. -/
structure Printed where
  stdout : String := ""
  stderr : String := ""
  deriving DecidableEq, Repr

/-- What is written first, then what is written second, on each stream. -/
def Printed.append (first second : Printed) : Printed :=
  ⟨first.stdout ++ second.stdout, first.stderr ++ second.stderr⟩

instance : Append Printed := ⟨Printed.append⟩

/-- Which of the two output streams are painted; each of them is or is not by itself. -/
structure Colors where
  stdout : Bool := false
  stderr : Bool := false
  deriving DecidableEq, Repr

/-- Where notices go and how they look. -/
structure Console where
  /-- Diagnostic lines are shown. -/
  verbose : Bool := false
  /-- Progress goes to standard error. -/
  progressToStderr : Bool := false
  colors : Colors := {}
  deriving DecidableEq, Repr

namespace Notice

/-- The notice is a warning. -/
def isWarning : Notice → Bool
  | .swamped .. => true
  | .mismatch .. => true
  | _ => false

/-- The line of a notice. -/
def line (colored : Bool) : Notice → String
  | .calibrated initTime => "init: " ++ initTime.toFixed 3 ++ "s"
  | .measured routine size result =>
    Paint.cyan.apply colored routine ++ " " ++ progressLine size result
  | .skipped routine requirement hint =>
    "skipping " ++ routine ++ ": " ++ requirement ++ " is not available (enable with: " ++
      hint ++ ")"
  | .diagnostic line => Paint.faint.apply colored ("  | " ++ line)
  | .swamped routine size rawReal initTime iterations =>
    Paint.yellow.apply colored "warning:" ++ " " ++ routine ++ " at size " ++ numeral size ++
      " took " ++ rawReal.toFixed 3 ++ "s, too close to init time " ++ initTime.toFixed 3 ++
      "s; retrying with " ++ numeral iterations ++ " iterations"
  | .mismatch routine size observed expected =>
    Paint.yellow.apply colored "warning:" ++ " " ++ routine ++ " at size " ++ numeral size ++
      " returned " ++ quoted observed ++ ", expected " ++ quoted expected

end Notice

namespace Console

/-- The console shows the notice at all. -/
def shows (console : Console) : Notice → Bool
  | .diagnostic _ => console.verbose
  | _ => true

/-- The notice goes to standard error. -/
def usesStderr (console : Console) (notice : Notice) : Bool :=
  notice.isWarning || console.progressToStderr

/-- The line of a notice, painted if the stream is that it goes to. -/
def line (console : Console) (notice : Notice) : String :=
  notice.line (if console.usesStderr notice then console.colors.stderr else console.colors.stdout)

/-- What a notice adds to the two streams. -/
def print (console : Console) (notice : Notice) : Printed :=
  if console.shows notice then
    let text := console.line notice ++ "\n"
    if console.usesStderr notice then ⟨"", text⟩ else ⟨text, ""⟩
  else
    ⟨"", ""⟩

/-- What a list of notices adds to the two streams. -/
def printAll (console : Console) (notices : List Notice) : Printed :=
  ⟨String.join (notices.map fun notice => (console.print notice).stdout),
    String.join (notices.map fun notice => (console.print notice).stderr)⟩

end Console

end RoutineTiming
