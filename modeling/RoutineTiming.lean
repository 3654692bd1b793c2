import RoutineTiming.IterationTable
import RoutineTiming.RoutineOutput
import RoutineTiming.Report.Table
import RoutineTiming.Report.Console
import RoutineTiming.Report.Document
import RoutineTiming.Toml.Moment
import RoutineTiming.Toml.Number
import RoutineTiming.Toml.Quotation
import RoutineTiming.Toml.Value
import RoutineTiming.Toml.Document
import RoutineTiming.Toml.Grammar
import RoutineTiming.Plan.Basic
import RoutineTiming.Plan.Entry
import RoutineTiming.Plan.Shape
import RoutineTiming.Plan.Tables
import RoutineTiming.Plan.Text
import RoutineTiming.Plan.Loading
import RoutineTiming.Verdict
import RoutineTiming.Environment
import RoutineTiming.Invocation
import RoutineTiming.Measuring.Adaptive
import RoutineTiming.Measuring.Capabilities
import RoutineTiming.Measuring.Run
import RoutineTiming.Measuring.Script
import RoutineTiming.Process.Launch
import RoutineTiming.Shell.Grammar
import RoutineTiming.Shell.Arithmetic
import RoutineTiming.Shell.Evaluation
import RoutineTiming.Shell.Program
import RoutineTiming.Machine.FileSystem
import RoutineTiming.Machine.Programs
import RoutineTiming.Machine.Standard
import RoutineTiming.CommandLine.Options
import RoutineTiming.CommandLine.Program
import RoutineTiming.Main
import RoutineTiming.Proofs.Plan.Accepted
import RoutineTiming.Proofs.IterationCount
import RoutineTiming.Proofs.Measuring.Faults
import RoutineTiming.Proofs.Plan.Cells
import RoutineTiming.Proofs.Measuring.Launches
import RoutineTiming.Proofs.Measuring.FailStop
import RoutineTiming.Proofs.Measuring.Repetitions
import RoutineTiming.Proofs.Measuring.Rounds
import RoutineTiming.Proofs.Measuring.History
import RoutineTiming.Proofs.Measuring.CallTrace
import RoutineTiming.Proofs.EnteredMatrix
import RoutineTiming.Proofs.Measuring.FinishedRun
import RoutineTiming.Proofs.Measuring.Report
import RoutineTiming.Proofs.DoubledTable
import RoutineTiming.Proofs.Measuring.Retries
import RoutineTiming.Proofs.Measuring.Stateless
import RoutineTiming.Proofs.Measuring.Rerun
import RoutineTiming.Proofs.Restriction
import RoutineTiming.Proofs.Plan.Narrowed
import RoutineTiming.Proofs.Measuring.Narrowing
import RoutineTiming.Proofs.Measuring.Unverified
import RoutineTiming.Proofs.Binary64.Nearest
import RoutineTiming.Proofs.Binary64.Amount
import RoutineTiming.Proofs.Report.Numbers
import RoutineTiming.Proofs.Measuring.Amounts
import RoutineTiming.Proofs.Measuring.Log
import RoutineTiming.Proofs.ByteOrder
import RoutineTiming.Proofs.Measuring.Detection
import RoutineTiming.Proofs.Process.Interruption
import RoutineTiming.Proofs.Report.Widths
import RoutineTiming.Proofs.CommandLine.Stages
import RoutineTiming.Proofs.CommandLine.AllOrNothing
import RoutineTiming.Proofs.CommandLine.LongName
import RoutineTiming.Proofs.Plan.FirstFault
import RoutineTiming.Proofs.Measuring.Tunables
import RoutineTiming.Proofs.Binary64.Monotone
import RoutineTiming.Proofs.Measuring.Convergence
import RoutineTiming.Proofs.Decimal.Digits
import RoutineTiming.Proofs.Decimal.Shortest
import RoutineTiming.Proofs.Json.Reading
import RoutineTiming.Proofs.Json.Strings
import RoutineTiming.Proofs.Json.Numbers
import RoutineTiming.Proofs.Json.Documents
import RoutineTiming.Proofs.Report.Recovery
import RoutineTiming.Proofs.Plan.Choice
import RoutineTiming.Proofs.Plan.Tables
import RoutineTiming.Proofs.Text.Lines
import RoutineTiming.Proofs.Text.Trimmed
import RoutineTiming.Proofs.Output.Timing
import RoutineTiming.Proofs.Output.Grammar
import RoutineTiming.Proofs.Output.Printed
import RoutineTiming.Proofs.Measuring.Chatter
import RoutineTiming.Proofs.Process.Environment
import RoutineTiming.Proofs.Report.Alignment
import RoutineTiming.Proofs.Decimal.Fixed
import RoutineTiming.Proofs.Report.Colors
import RoutineTiming.Proofs.Binary64.Order
import RoutineTiming.Proofs.Report.Magnitude
import RoutineTiming.Proofs.Report.ShownNumber
import RoutineTiming.Proofs.Binary64.Quotient
import RoutineTiming.Proofs.Report.Sizes
import RoutineTiming.Proofs.TableOperations
import RoutineTiming.Proofs.InsertedMatrix
import RoutineTiming.Proofs.Plan.EntryPoints
import RoutineTiming.Proofs.Measuring.Entries
import RoutineTiming.Proofs.Binary64.Roundings
import RoutineTiming.Proofs.Measuring.Microseconds
import RoutineTiming.Proofs.Binary64.Minimum
import RoutineTiming.Proofs.Measuring.LeastTime
