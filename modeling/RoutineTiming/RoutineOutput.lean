import RoutineTiming.BenchError
import RoutineTiming.Measurement
import RoutineTiming.Text.Line

/-!
# What a routine prints

A routine ends its output with a line for its value and a line for the time of its inner loop in
whole microseconds, an empty time standing for zero. Every earlier line is diagnostic.

## Main definitions

* `RoutineOutput` : the value, the time and the diagnostic lines.
* `readMicroseconds?` : the time in seconds.
* `RoutineOutput.parse` : the output of a process that may have printed less.
* `RoutineOutput.parseMeasurement` : the output of a measured routine, which has both lines.
-/

namespace RoutineTiming

/-- What a routine printed. -/
structure RoutineOutput where
  value : String
  /-- Seconds of the inner loop. -/
  user : Binary64
  diagnostics : List String
  deriving DecidableEq

/-- The seconds denoted by a line of whole microseconds, blanks around it aside; a blank line
denotes zero. -/
def readMicroseconds? (line : String) : Option Binary64 :=
  let digits := trim line
  if digits = "" then
    some 0
  else
    (readNumeral? maxWord digits).map fun n => Binary64.ofNat n / Binary64.ofNat 1000000

namespace RoutineOutput

/-- The output given by the timing line and the earlier lines, the latest first. -/
def ofLines (routine : String) (timing : String) (earlier : List String) :
    Except BenchError RoutineOutput :=
  match readMicroseconds? timing with
  | none => .error (.badOutput routine (.badTiming timing))
  | some user =>
    match earlier with
    | [] => .ok ⟨"", user, []⟩
    | value :: diagnostics =>
      .ok ⟨dropReturns value, user, diagnostics.reverse.map dropReturns⟩

/-- The output of a process; lines that are missing count as empty. -/
def parse (routine stdout : String) : Except BenchError RoutineOutput :=
  match (linesOf stdout).reverse with
  | [] => ofLines routine "" []
  | timing :: earlier => ofLines routine timing earlier

/-- The output of a measured routine, which has a value line and a timing line. -/
def parseMeasurement (routine stdout : String) : Except BenchError RoutineOutput :=
  let count := (linesOf stdout).length
  if count < 2 then
    .error (.badOutput routine (.tooFewLines count))
  else
    parse routine stdout

end RoutineOutput

end RoutineTiming
