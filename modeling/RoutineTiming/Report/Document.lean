import RoutineTiming.Json.Basic
import RoutineTiming.Report.Timestamp
import RoutineTiming.ResultsMatrix

/-!
# The report as a JSON document

A finished run is reported as one JSON document: when it was made, how it was measured, the sizes,
and the cells of every routine in ascending order of size.

## Main definitions

* `ReportContext` : how the run was measured.
* `reportDocument` : the document as a JSON value.
-/

namespace RoutineTiming

/-- How a run was measured. -/
structure ReportContext where
  initTime : Binary64
  statistic : Statistic
  swampFactor : Binary64
  sizes : List Nat

/-- A cell of the matrix as a JSON value. -/
def cellDocument (size : Nat) (result : CellResult) : Json :=
  .object
    [("size", .natural size),
      ("iterations", .natural result.iterations),
      ("raw_real", .number result.rawReal),
      ("real_per_iter", .number result.realPerIteration),
      ("user_per_iter", .number result.userPerIteration),
      ("value", .string result.value),
      ("verified",
        match result.verified with
        | some b => .bool b
        | none => .null)]

/-- A row of the matrix as a JSON value. -/
def rowDocument (name : String) (row : ResultsRow) : Json :=
  .object
    [("name", .string name),
      ("results", .array (row.entries.map fun (size, result) => cellDocument size result))]

/-- The report as a JSON value. -/
def reportDocument (context : ReportContext) (matrix : ResultsMatrix) (now : Timestamp) : Json :=
  .object
    [("generated_at", .string now.text),
      ("init_time", .number context.initTime),
      ("statistic", .string context.statistic.name),
      ("swamp_factor", .number context.swampFactor),
      ("sizes", .array (context.sizes.map .natural)),
      ("routines", .array (matrix.rows.map fun (name, row) => rowDocument name row))]

end RoutineTiming
