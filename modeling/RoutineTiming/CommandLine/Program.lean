import RoutineTiming.CommandLine.Options
import RoutineTiming.Measuring.Run
import RoutineTiming.Plan.Loading
import RoutineTiming.Process.Launch
import RoutineTiming.Report.Document
import RoutineTiming.Report.Table

/-!
# The program

The program measures a plan and reports the results, as tables or as a JSON document. It either
succeeds as a whole or stops at the first error, which it names on standard error unless it was
interrupted. It breaks off where the tables cannot be printed.

## Main definitions

* `Wording` : the texts that are not the program's own.
* `Surroundings` : what the program finds where it runs.
* `Refusal` : why it stops.
* `Options.carryOut`, `Request.carryOut` : what it does.
-/

namespace RoutineTiming

/-- The texts that the program writes in the words of the libraries that it is built on. -/
structure Wording where
  /-- What the reader of TOML says of a text that it refuses. -/
  textReport : String → String
  /-- The summary of the options. -/
  help : String
  /-- What is written about arguments that are refused. -/
  usage : List String → String
  /-- What is written when the program breaks off. -/
  crash : String

/-- What the program finds where it runs. -/
structure Surroundings (σ : Type) where
  files : FileSystem
  /-- A path leads to a file, in a state of the launcher. -/
  fileExists : σ → String → Bool
  /-- The variables of the program. -/
  environment : String → Option String
  launcher : Launcher σ
  /-- The state of the launcher before the first launch. -/
  start : σ
  /-- The moment at which a report is made. -/
  now : Timestamp
  colors : Colors := {}
  wording : Wording

/-- Why the program stops. -/
inductive Refusal where
  | noRepetitions
  /-- The swamp factor is negative or not a finite number. -/
  | badSwampFactor
  | failed (error : BenchError)
  deriving DecidableEq

namespace Refusal

/-- The wording of the refusal. -/
def message (wording : Wording) : Refusal → String
  | .noRepetitions => "--repetitions must be at least 1"
  | .badSwampFactor => "--swamp-factor must be a non-negative number"
  | .failed e => e.message wording.textReport

/-- The number with which the program exits. -/
def exitCode : Refusal → Nat
  | .failed .cancelled => 130
  | _ => 1

/-- What is written of the refusal: nothing if the program was interrupted. -/
def printed (wording : Wording) (refusal : Refusal) : Printed :=
  match refusal with
  | .failed .cancelled => {}
  | refusal => { stderr := refusal.message wording ++ "\n" }

end Refusal

/-- How the program ended. -/
structure Exit where
  code : Nat
  printed : Printed
  deriving DecidableEq, Repr

/-- The number with which the program exits when it breaks off. -/
def crashCode : Nat := 101

namespace Options

/-- How the measurements are made. -/
def settings (options : Options) : Settings where
  repetitions := options.repetitions
  swampFactor := options.swampFactor
  statistic := options.statistic
  maxDoublings := options.maxDoublings

/-- Where notices go: away from standard output if that is kept for a document. -/
def console (options : Options) (colors : Colors) : Console where
  verbose := options.verbose
  progressToStderr := options.json
  colors := colors

/-- What is wrong with the options. -/
def check (options : Options) : Except Refusal Unit :=
  if options.repetitions = 0 then
    .error .noRepetitions
  else if options.swampFactor.isFinite ∧ 0 ≤ options.swampFactor then
    .ok ()
  else
    .error .badSwampFactor

/-- The plan to measure. -/
def chosenPlan (options : Options) (files : FileSystem) : Except BenchError Plan := do
  let plan ← Plan.load files options.plan
  if options.only = [] then return plan else plan.retain options.only

/-- The text of a report, if it can be printed. -/
def reportText? (options : Options) (plan : Plan) (report : RunReport) (now : Timestamp)
    (colored : Bool) : Option String :=
  if options.json then
    let context : ReportContext :=
      { initTime := report.initTime, statistic := options.statistic,
        swampFactor := options.swampFactor, sizes := plan.sizes }
    some ((reportDocument context report.matrix now).pretty ++ "\n")
  else
    fullReport? colored plan.sizes report.matrix

/-- The measurement of a plan in given surroundings. -/
def measure {σ : Type} (options : Options) (surroundings : Surroundings σ) (plan : Plan) :
    Outcome σ RunReport :=
  let env :=
    plan.runtime.environment options.libDirs options.routineDirs surroundings.environment
  benchmark plan (plan.runtime.invoker env surroundings.launcher) surroundings.fileExists
    options.settings (plan.start surroundings.start)

/-- What the program does with options. -/
def carryOut {σ : Type} (options : Options) (surroundings : Surroundings σ) : Exit :=
  let wording := surroundings.wording
  match options.check with
  | .error refusal => ⟨refusal.exitCode, refusal.printed wording⟩
  | .ok () =>
    match options.chosenPlan surroundings.files with
    | .error e => ⟨(Refusal.failed e).exitCode, (Refusal.failed e).printed wording⟩
    | .ok plan =>
      let outcome := options.measure surroundings plan
      let progress := (options.console surroundings.colors).printAll outcome.notices
      match outcome.result with
      | .error e => ⟨(Refusal.failed e).exitCode, progress ++ (Refusal.failed e).printed wording⟩
      | .ok report =>
        match options.reportText? plan report surroundings.now surroundings.colors.stdout with
        | some text => ⟨0, progress ++ ⟨text, ""⟩⟩
        | none => ⟨crashCode, progress ++ ⟨"", wording.crash⟩⟩

end Options

/-! ### Requests -/

/-- The name and version of the program. -/
def versionText : String := "rtbench 0.1.0\n"

/-- What the program does when it is asked for something. -/
def Request.carryOut {σ : Type} (request : Request) (surroundings : Surroundings σ) : Exit :=
  match request with
  | .measure options => options.carryOut surroundings
  | .help => ⟨0, ⟨surroundings.wording.help, ""⟩⟩
  | .version => ⟨0, ⟨versionText, ""⟩⟩

/-- What the program does with its arguments. -/
def runProgram {σ : Type} (arguments : List String) (surroundings : Surroundings σ) : Exit :=
  match readRequest arguments surroundings.environment with
  | some request => request.carryOut surroundings
  | none => ⟨2, ⟨"", surroundings.wording.usage arguments⟩⟩

end RoutineTiming
