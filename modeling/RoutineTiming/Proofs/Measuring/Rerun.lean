import RoutineTiming.Proofs.Measuring.Stateless

/-!
# A plan that is run once more

The table that a finished run leaves behind has for each measured cell a count at which it is not
swamped. If the invoker remembers nothing, a run that starts with this table takes one round for
each cell, reports the same results, and leaves the table as it is.

## Main definitions

* `Bench.Step.taskAgain` : the task of a step at the count that the step came to.

## Main results

* `Bench.length_calls_of_steps` : the number of calls in a history.
* `Bench.Ready.taskAgain` : a finished run leaves a table that is ready for its tasks.
* `run_again` : a run with the table that a finished run has left.
-/

namespace RoutineTiming

/-! ### The number of calls -/

theorem length_filterMap_call? (events : List Event) :
    (events.filterMap Event.call?).length = (events.filterMap Event.purpose?).length := by
  induction events with
  | nil => rfl
  | cons event events ih =>
    cases event with
    | launched purpose args answer => exact congrArg Nat.succ ih
    | noticed notice => exact ih

theorem length_launchesOf (repetitions : Nat) (cells : List (Cell × Nat)) :
    (launchesOf repetitions cells).length = (cells.map Prod.snd).sum * repetitions := by
  have hlaunches (cell : Cell) (rounds : Nat) :
      (cell.launches repetitions rounds).length = rounds * repetitions := by
    rw [Cell.launches, List.length_flatMap]
    simp only [List.length_replicate, List.map_const', List.length_range, List.sum_replicate_nat]
  induction cells with
  | nil => exact (Nat.zero_mul _).symm
  | cons e cells ih =>
    have hcons : launchesOf repetitions (e :: cells) =
        e.1.launches repetitions e.2 ++ launchesOf repetitions cells := rfl
    rw [hcons, List.length_append, hlaunches, ih, List.map_cons, List.sum_cons, Nat.add_mul]

namespace Plan.WellFormed

/-- A plan has a cell for each of its routines that has what it requires, at each size. -/
theorem length_cells {plan : Plan} (h : plan.WellFormed) (capabilities : Capabilities) :
    (plan.cells capabilities).length =
      (plan.routines.filter capabilities.allows).length * plan.sizes.length := by
  rw [← List.length_map Cell.key, h.map_key_cells, List.length_flatMap]
  simp only [List.length_map, List.map_const', List.sum_replicate_nat]

end Plan.WellFormed

namespace Bench

variable {σ : Type} {b : Bench σ}

/-- The number of calls in a calibration and the history of a run after it. -/
theorem length_calls_of_steps {α : Type} {outcome : Outcome σ α}
    {answers : List (Except BenchError Invocation)} {steps : List b.Step}
    (hevents : outcome.events = startupLog b.plan.runtime answers ++
      .noticed (.calibrated b.initTime) :: steps.flatMap Step.events)
    (hlength : answers.length = b.settings.repetitions) :
    outcome.calls.length =
      (1 + ((finishedOf steps).map fun f => f.last + 1).sum) * b.settings.repetitions := by
  have hsteps : (.noticed (.calibrated b.initTime) :: steps.flatMap Step.events).filterMap
      Event.purpose? = launchesOf b.settings.repetitions (steps.filterMap Step.cellRounds?) :=
    purposes_steps steps
  rw [Outcome.calls, length_filterMap_call?, hevents, List.filterMap_append, List.length_append,
    purposes_startupLog, List.length_replicate, hlength, hsteps, length_launchesOf,
    filterMap_cellRounds, List.map_map, Nat.add_mul, Nat.one_mul]
  rfl

/-! ### The tasks of a history at the counts that it came to -/

/-- The task of a step at the count that the step came to. -/
def Step.taskAgain : b.Step → RunTask
  | .skipped routine => .skip routine
  | .measured f => .measure (f.rounds.restart f.last f.start).cell

theorem cells_taskAgain (steps : List b.Step) :
    (steps.map Step.taskAgain).filterMap RunTask.cell? =
      (finishedOf steps).map fun f => (f.rounds.restart f.last f.start).cell := by
  induction steps with
  | nil => rfl
  | cons step steps ih =>
    cases step with
    | skipped routine => exact ih
    | measured f => exact congrArg ((f.rounds.restart f.last f.start).cell :: ·) ih

/-- What is done in a task depends on the table, and not on the count of the task. -/
theorem foldlM_taskAgain (steps : List b.Step) :
    (steps.map Step.taskAgain).foldlM b.perform {} =
      ((steps.map Step.task).foldlM b.perform {} : Session σ ResultsMatrix) := by
  have hstep (matrix : ResultsMatrix) (step : b.Step) :
      b.perform matrix step.taskAgain = b.perform matrix step.task := by
    cases step <;> rfl
  simp only [List.foldlM_map, hstep]

/-- A history of all tasks leaves a table that is ready for them once more. -/
theorem Ready.taskAgain (hplan : b.plan.Accepted) {steps : List b.Step}
    (htasks : b.plan.tasks b.capabilities = steps.map Step.task) :
    Ready (steps.map Step.taskAgain) (steps.foldl Step.write b.plan.iterationTable) := by
  constructor <;> rw [cells_taskAgain]
  · intro cell hcell
    obtain ⟨f, hf, rfl⟩ := List.mem_map.mp hcell
    exact get?_foldl_write_of_mem hplan htasks hf
  · intro cell hcell
    obtain ⟨f, -, rfl⟩ := List.mem_map.mp hcell
    exact doubledTimes_le _ _
  · exact List.pairwise_map.mpr
      (List.pairwise_map.mp (nodup_key_finishedOf hplan.wellFormed htasks))

end Bench

/-! ### Histories without retries -/

theorem doublingsOf_eq_zero {entries : List ((String × Nat) × Nat)} (h : ∀ e ∈ entries, e.2 = 0)
    (key : String × Nat) : doublingsOf key entries = 0 := by
  induction entries with
  | nil => rfl
  | cons e entries ih =>
    obtain ⟨he, hentries⟩ := List.forall_mem_cons.mp h
    rw [doublingsOf_cons, he, ite_self, ih hentries]

theorem IterationTable.doubleAll_eq_self {entries : List ((String × Nat) × Nat)}
    (h : ∀ e ∈ entries, e.2 = 0) (table : IterationTable) : table.doubleAll entries = table := by
  induction entries with
  | nil => rfl
  | cons e entries ih =>
    obtain ⟨he, hentries⟩ := List.forall_mem_cons.mp h
    have hcons : table.doubleAll (e :: entries) = (table.doubleBy e.1 e.2).doubleAll entries := rfl
    rw [hcons, he]
    exact ih hentries

section Run

variable {σ : Type} {plan : Plan} {invoker : Invoker σ} {capabilities : Capabilities}
  {settings : Settings}

/-- A retry of a routine at a size is among the counts of its retries. -/
theorem Outcome.mem_retries {α : Type} {outcome : Outcome σ α} {routine : String} {size : Nat}
    {rawReal initTime : Binary64} {iterations : Nat}
    (h : .swamped routine size rawReal initTime iterations ∈ outcome.notices) :
    iterations ∈ outcome.retries routine size :=
  List.mem_filterMap.mpr ⟨_, h, if_pos rfl⟩

/-- **A plan that is run once more.** If the run of an accepted plan finishes, and the invoker
remembers nothing, then a run that starts with the table that it leaves finishes with the same
report. It leaves the table as it is, finds no cell swamped, and makes all repetitions just once for
the calibration and for each cell. -/
theorem run_again (hplan : plan.Accepted) (hstateless : invoker.Stateless) {s s' : σ}
    {first again : Outcome σ RunReport} {report : RunReport}
    (hfirst : run plan invoker capabilities settings (plan.start s) = first)
    (hreport : first.result = .ok report)
    (hagain : run plan invoker capabilities settings ⟨s', first.state.table⟩ = again) :
    again.result = .ok report ∧ again.state.table = first.state.table ∧
    (∀ routine size rawReal initTime iterations,
      .swamped routine size rawReal initTime iterations ∉ again.notices) ∧
    again.calls.length = settings.repetitions *
      (1 + (plan.routines.filter capabilities.allows).length * plan.sizes.length) := by
  subst hfirst
  have hcourse := run_course invoker settings capabilities hplan s
  simp only [hreport] at hcourse
  obtain ⟨-, steps, htasks, hmatrix, htable, -⟩ := hcourse.exists_steps
  let b : Bench σ := ⟨plan, invoker, capabilities, settings, report.initTime⟩
  have hcalibrate : (calibrate invoker plan.runtime settings
      ⟨s', (run plan invoker capabilities settings (plan.start s)).state.table⟩).result =
        .ok report.initTime :=
    (calibrate_result_eq hstateless _ _ _ _).trans (calibrate_of_run_eq_ok hreport)
  have hready : Bench.Ready (steps.map Bench.Step.taskAgain)
      (run plan invoker capabilities settings (plan.start s)).state.table :=
    htable ▸ Bench.Ready.taskAgain (b := b) hplan htasks
  -- Every cell starts at the count that it came to, so its first round is the last one.
  obtain ⟨answers, steps', hlength, -, hmap, hresult, htable', hevents⟩ :=
    b.run_replay b hstateless rfl hplan.wellFormed hcalibrate (fun f => Nat.le_refl f.last) hready
      (by rw [htasks]; exact b.foldlM_taskAgain steps) (Bench.cells_taskAgain steps) hagain
  have hdoublings : ∀ e ∈ Bench.doublings steps', e.2 = 0 := by
    have heq := congrArg (List.map fun e => (e.1, e.2.1)) hmap
    simp only [List.map_map, Function.comp_def, Nat.sub_self] at heq
    rw [Bench.doublings, heq]
    intro e he
    obtain ⟨f, -, rfl⟩ := List.mem_map.mp he
    rfl
  refine ⟨?_, ?_, fun routine size rawReal initTime iterations hswamped => ?_, ?_⟩
  · have hcells := congrArg (List.map fun e => (e.1, plan.judge e.1 e.2.2)) hmap
    simp only [List.map_map, Function.comp_def] at hcells
    rw [hresult, Bench.foldl_enter_eq, hcells]
    rw [Bench.foldl_enter_eq] at hmatrix
    rw [← hmatrix]
  · rw [htable', Bench.foldl_write, IterationTable.doubleAll_eq_self hdoublings]
  · have hretries : (again.retries routine size).length = 0 := by
      show (readNotices (Notice.retry? (routine, size)) again.events).length = 0
      rw [hevents, readNotices_calibrated fun _ => rfl, Bench.length_retries_steps,
        doublingsOf_eq_zero hdoublings]
    rw [List.length_eq_zero_iff] at hretries
    have hmem := Outcome.mem_retries hswamped
    rw [hretries] at hmem
    cases hmem
  · have hrounds : (Bench.finishedOf steps').map (fun f => f.last + 1) =
        (Bench.finishedOf steps).map fun _ => 1 := by
      have heq := congrArg (List.map fun e => e.2.1 + 1) hmap
      simpa only [List.map_map, Function.comp_def, Nat.sub_self] using heq
    have hcells : (Bench.finishedOf steps).length = (plan.cells capabilities).length := by
      rw [← plan.filterMap_cell?_tasks, htasks, ← Bench.map_cell_finishedOf, List.length_map]
    rw [b.length_calls_of_steps hevents hlength, hrounds, List.map_const', List.sum_replicate_nat,
      hcells, hplan.wellFormed.length_cells, Nat.mul_one, Nat.mul_comm]

/-- A run that measures its first cell again, and the run with the table that it leaves. -/
theorem run_again_samplePlan :
    let settings : Settings := { repetitions := 1, maxDoublings := 1 }
    let first := run samplePlan sampleInvoker {} settings (samplePlan.start ())
    let again := run samplePlan sampleInvoker {} settings ⟨(), first.state.table⟩
    first.calls.length = 4 ∧ again.calls.length = 3 ∧ again.result = first.result := by
  intro settings first again
  have hfirst : run samplePlan sampleInvoker {} settings (samplePlan.start ()) = first := rfl
  have hagain : run samplePlan sampleInvoker {} settings ⟨(), first.state.table⟩ = again := rfl
  have hfinishes : first.result.toOption.isSome = true := by decide +kernel
  have hstateless : sampleInvoker.Stateless := fun _ _ _ => rfl
  cases hreport : first.result with
  | error e =>
    rw [hreport] at hfinishes
    cases hfinishes
  | ok report =>
    obtain ⟨hresult, -, -, hcalls⟩ := run_again samplePlan_accepted hstateless hfirst hreport hagain
    exact ⟨by decide +kernel, hcalls, hresult⟩

end Run

end RoutineTiming
