import RoutineTiming.Proofs.Measuring.FailStop
import RoutineTiming.Proofs.Measuring.History

/-!
# The launches of a run

A run launches the routine that does nothing for the calibration, and then each cell of the plan in
one or more rounds. How many rounds a cell takes is all that the answers of the invoker have a say
in: the launches of a finished run are those of a schedule, and the launches of a run that ends with
an error are the first ones of a schedule.

## Main definitions

* `Cell.launches` : the launches of a cell in a number of rounds.
* `schedule` : the launches of a run.

## Main results

* `Bench.Course.exists_schedule` : the launches in a course of the tasks of a run.
* `run_calls` : the launches of the run of an accepted plan.
-/

namespace RoutineTiming

/-- The launches of a cell that is measured in a number of rounds, each at the count that the round
has come to. -/
def Cell.launches (cell : Cell) (repetitions rounds : Nat) : List Purpose :=
  (List.range rounds).flatMap fun k =>
    List.replicate repetitions
      (.measurement cell.routine cell.size (doubledTimes cell.count k))

/-- The launches of cells one after the other, each in a number of rounds. -/
def launchesOf (repetitions : Nat) (cells : List (Cell × Nat)) : List Purpose :=
  cells.flatMap fun (cell, rounds) => cell.launches repetitions rounds

/-- The launches of a run that measures cells, each in a number of rounds. -/
def schedule (repetitions : Nat) (cells : List (Cell × Nat)) : List Purpose :=
  List.replicate repetitions .startup ++ launchesOf repetitions cells

/-! ### The launches of a cell -/

namespace Rounds

variable {σ : Type} {r : Rounds σ}

theorem purposes_log {k : Nat} {measurements : List Measurement}
    (h : r.readings k = .ok measurements) :
    (r.log k).filterMap Event.purpose? = List.replicate r.settings.repetitions (r.purpose k) := by
  rw [log, launchLog_purposes h, length_answers]

theorem prefix_purposes_log (k : Nat) :
    (r.log k).filterMap Event.purpose? <+: List.replicate r.settings.repetitions (r.purpose k) := by
  rw [← length_answers]
  exact prefix_launchLog_purposes _

theorem purposes_warning (k : Nat) : (r.warning k).filterMap Event.purpose? = [] := by
  rw [warning]
  split <;> rfl

/-- The rounds before one that is reached are complete. -/
theorem Reached.purposes_events {k : Nat} (h : r.Reached k) :
    (r.events k).filterMap Event.purpose? =
      r.cell.launches r.settings.repetitions k ++ (r.log k).filterMap Event.purpose? := by
  rw [events, List.filterMap_append, List.filterMap_flatMap]
  congr 1
  refine List.flatMap_congr fun j hj => ?_
  obtain ⟨⟨measurements, hreadings, -⟩, -⟩ := h j (List.mem_range.mp hj)
  rw [List.filterMap_append, purposes_warning, List.append_nil, purposes_log hreadings]
  rfl

theorem launches_succ (k : Nat) :
    r.cell.launches r.settings.repetitions (k + 1) =
      r.cell.launches r.settings.repetitions k ++
        List.replicate r.settings.repetitions (r.purpose k) := by
  rw [Cell.launches, List.range_succ, List.flatMap_append, List.flatMap_singleton]
  rfl

end Rounds

namespace Bench

variable {σ : Type} {b : Bench σ}

/-- The cell of a step with the number of its rounds. -/
def Step.cellRounds? : b.Step → Option (Cell × Nat)
  | .skipped _ => none
  | .measured f => some (f.cell, f.last + 1)

theorem filterMap_cellRounds (steps : List b.Step) :
    steps.filterMap Step.cellRounds? = (finishedOf steps).map fun f => (f.cell, f.last + 1) := by
  induction steps with
  | nil => rfl
  | cons step steps ih =>
    cases step with
    | skipped routine => exact ih
    | measured f => exact congrArg ((f.cell, f.last + 1) :: ·) ih

theorem map_fst_cellRounds (steps : List b.Step) :
    (steps.filterMap Step.cellRounds?).map Prod.fst =
      (steps.map Step.task).filterMap RunTask.cell? := by
  rw [filterMap_cellRounds, List.map_map, ← map_cell_finishedOf]
  rfl

theorem rounds_le_of_mem_cellRounds {steps : List b.Step} {e : Cell × Nat}
    (he : e ∈ steps.filterMap Step.cellRounds?) :
    1 ≤ e.2 ∧ e.2 ≤ min b.settings.maxDoublings 64 + 1 := by
  rw [filterMap_cellRounds] at he
  obtain ⟨f, -, rfl⟩ := List.mem_map.mp he
  exact ⟨Nat.succ_le_succ (Nat.zero_le _), Nat.succ_le_succ f.reached.le_min⟩

theorem launchesOf_append (repetitions : Nat) (cells cells' : List (Cell × Nat)) :
    launchesOf repetitions (cells ++ cells') =
      launchesOf repetitions cells ++ launchesOf repetitions cells' :=
  List.flatMap_append

/-- A measured cell is launched in each of its rounds. -/
theorem Finished.purposes_events (f : b.Finished) :
    f.events.filterMap Event.purpose? = f.cell.launches b.settings.repetitions (f.last + 1) := by
  have hreached : f.rounds.Reached f.last := f.reached
  have hreadings : f.rounds.readings f.last = .ok f.measurements := f.readings_eq
  rw [Finished.events, List.filterMap_append, filterMap_purpose?_noticed, List.append_nil,
    hreached.purposes_events, Rounds.purposes_log hreadings]
  exact (Rounds.launches_succ _).symm

theorem purposes_steps (steps : List b.Step) :
    (steps.flatMap Step.events).filterMap Event.purpose? =
      launchesOf b.settings.repetitions (steps.filterMap Step.cellRounds?) := by
  rw [read_steps (fun _ _ => List.filterMap_append) fun _ => rfl, filterMap_cellRounds, launchesOf,
    List.flatMap_map]
  exact List.flatMap_congr fun f _ => f.purposes_events

/-- The launches in a course of some tasks are those of their cells, or the first ones of them if
the course ends with an error. -/
theorem Course.exists_schedule {tasks : List RunTask} {matrix : ResultsMatrix}
    {table table' : IterationTable} {result : Except BenchError ResultsMatrix}
    {events : List Event} (h : b.Course tasks matrix table result table' events) :
    ∃ cells : List (Cell × Nat), cells.map Prod.fst = tasks.filterMap RunTask.cell? ∧
      (∀ e ∈ cells, 1 ≤ e.2 ∧ e.2 ≤ min b.settings.maxDoublings 64 + 1) ∧
      events.filterMap Event.purpose? <+: launchesOf b.settings.repetitions cells ∧
      ∀ matrix', result = .ok matrix' →
        events.filterMap Event.purpose? = launchesOf b.settings.repetitions cells := by
  cases h with
  | finished steps htasks =>
    refine ⟨steps.filterMap Step.cellRounds?, ?_, fun e he => rounds_le_of_mem_cellRounds he, ?_,
      fun _ _ => purposes_steps steps⟩
    · rw [htasks, map_fst_cellRounds]
    · exact ⟨[], by rw [List.append_nil, purposes_steps]⟩
  | stopped steps cell rest start last e htasks hreached hends =>
    -- Nothing is known of the cells after the one that is given up, so one round will do for them.
    refine ⟨steps.filterMap Step.cellRounds? ++
      (cell, last + 1) :: (rest.filterMap RunTask.cell?).map fun cell => (cell, 1), ?_, ?_, ?_,
      fun _ h => by cases h⟩
    · have hrest : ((rest.filterMap RunTask.cell?).map fun cell => (cell, 1)).map Prod.fst =
          rest.filterMap RunTask.cell? := by
        rw [List.map_map]
        exact List.map_id _
      rw [htasks, List.map_append, map_fst_cellRounds, List.map_cons, hrest,
        List.filterMap_append]
      rfl
    · intro entry hentry
      rcases List.mem_append.mp hentry with hentry | hentry
      · exact rounds_le_of_mem_cellRounds hentry
      · rcases List.mem_cons.mp hentry with rfl | hentry
        · exact ⟨Nat.succ_le_succ (Nat.zero_le _), Nat.succ_le_succ hreached.le_min⟩
        · obtain ⟨cell', -, rfl⟩ := List.mem_map.mp hentry
          exact ⟨Nat.le_refl 1, Nat.succ_le_succ (Nat.zero_le _)⟩
    · have hlast : ((b.rounds cell start).events last).filterMap Event.purpose? <+:
          cell.launches b.settings.repetitions (last + 1) := by
        have hsucc : cell.launches b.settings.repetitions (last + 1) = _ :=
          Rounds.launches_succ (r := b.rounds cell start) last
        rw [hreached.purposes_events, hsucc]
        exact (List.prefix_append_right_inj _).mpr (Rounds.prefix_purposes_log last)
      rw [List.filterMap_append, purposes_steps, launchesOf_append]
      refine (List.prefix_append_right_inj _).mpr (hlast.trans ?_)
      exact List.prefix_append _ _

end Bench

/-! ### The launches of a run -/

theorem purposes_startupLog (runtime : Runtime) (answers : List (Except BenchError Invocation)) :
    (startupLog runtime answers).filterMap Event.purpose? =
      List.replicate answers.length .startup := by
  induction answers with
  | nil => rfl
  | cons answer answers ih => exact congrArg (Purpose.startup :: ·) ih

/-- The cells of a plan are its routines that have what they require, at all sizes. -/
theorem Plan.WellFormed.map_key_cells {plan : Plan} (h : plan.WellFormed)
    (capabilities : Capabilities) :
    (plan.cells capabilities).map Cell.key =
      (plan.routines.filter capabilities.allows).flatMap fun routine =>
        plan.sizes.map fun size => (routine.name, size) := by
  rw [cells, List.map_flatMap]
  refine List.flatMap_congr fun routine hr => ?_
  rw [← h.map_size_cellsOf (List.mem_of_mem_filter hr), List.map_map]
  refine List.map_congr_left fun cell hcell => ?_
  rw [Cell.key, routine_of_mem_cellsOf hcell]
  rfl

theorem measurement_mem_schedule {repetitions : Nat} {cells : List (Cell × Nat)} {routine : String}
    {size iterations : Nat}
    (h : .measurement routine size iterations ∈ schedule repetitions cells) :
    ∃ cell ∈ cells.map Prod.fst, cell.routine = routine := by
  rcases List.mem_append.mp h with h | h
  · cases List.eq_of_mem_replicate h
  · obtain ⟨e, he, h⟩ := List.mem_flatMap.mp h
    obtain ⟨k, -, h⟩ := List.mem_flatMap.mp h
    cases List.eq_of_mem_replicate h
    exact ⟨e.1, List.mem_map_of_mem he, rfl⟩

section Run

variable {σ : Type} {plan : Plan} {invoker : Invoker σ} {capabilities : Capabilities}
  {settings : Settings}

/-- The launches in a run are those of a schedule of the cells of the plan, or the first ones of
them if the run ends with an error. -/
theorem RunCourse.exists_schedule {table table' : IterationTable}
    {result : Except BenchError RunReport} {events : List Event}
    (h : RunCourse plan invoker capabilities settings table result table' events) :
    ∃ cells : List (Cell × Nat), cells.map Prod.fst = plan.cells capabilities ∧
      (∀ e ∈ cells, 1 ≤ e.2 ∧ e.2 ≤ min settings.maxDoublings 64 + 1) ∧
      events.filterMap Event.purpose? <+: schedule settings.repetitions cells ∧
      ∀ report, result = .ok report →
        events.filterMap Event.purpose? = schedule settings.repetitions cells := by
  cases h with
  | uncalibrated answers e hlength =>
    refine ⟨(plan.cells capabilities).map fun cell => (cell, 1), ?_, fun entry hentry => ?_, ?_,
      fun _ h => by cases h⟩
    · rw [List.map_map]
      exact List.map_id _
    · obtain ⟨cell, -, rfl⟩ := List.mem_map.mp hentry
      exact ⟨Nat.le_refl 1, Nat.succ_le_succ (Nat.zero_le _)⟩
    · rw [purposes_startupLog, schedule, ← Nat.add_sub_cancel' hlength, List.replicate_add,
        List.append_assoc]
      exact List.prefix_append _ _
  | @calibrated answers initTime hlength result table' events hcourse =>
    obtain ⟨cells, hcells, hrounds, hfirst, hall⟩ := hcourse.exists_schedule
    have hpurposes : (startupLog plan.runtime answers ++
        .noticed (.calibrated initTime) :: events).filterMap Event.purpose? =
          List.replicate settings.repetitions .startup ++ events.filterMap Event.purpose? := by
      rw [List.filterMap_append, purposes_startupLog, hlength]
      rfl
    refine ⟨cells, hcells.trans (plan.filterMap_cell?_tasks capabilities), hrounds, ?_,
      fun report hreport => ?_⟩
    · rw [hpurposes]
      exact (List.prefix_append_right_inj _).mpr hfirst
    · rw [hpurposes]
      cases result with
      | error e => cases hreport
      | ok matrix => exact congrArg _ (hall matrix rfl)

/-- **The calls of a run.** The run of an accepted plan calibrates first and then goes through the
cells of the plan in order, each in at least one round; a finished run has made all of these calls,
and a run that ends with an error the first ones. No call is made for a routine that lacks what it
requires. -/
theorem run_calls (hplan : plan.Accepted) {s : σ} {outcome : Outcome σ RunReport}
    (h : run plan invoker capabilities settings (plan.start s) = outcome) :
    (∃ cells : List (Cell × Nat), cells.map Prod.fst = plan.cells capabilities ∧
      (∀ e ∈ cells, 1 ≤ e.2 ∧ e.2 ≤ min settings.maxDoublings 64 + 1) ∧
      outcome.calls <+: (schedule settings.repetitions cells).map (Purpose.args plan.runtime) ∧
      ∀ report, outcome.result = .ok report → outcome.calls =
        (schedule settings.repetitions cells).map (Purpose.args plan.runtime)) ∧
    (plan.cells capabilities).map Cell.key =
      ((plan.routines.filter capabilities.allows).flatMap fun routine =>
        plan.sizes.map fun size => (routine.name, size)) ∧
    plan.sizes.Pairwise (· < ·) ∧
    (∀ cell ∈ plan.cells capabilities,
      plan.iterationTable.get? cell.routine cell.size = some cell.count) ∧
    outcome.calls = outcome.purposes.map (Purpose.args plan.runtime) ∧
    ∀ routine ∈ plan.routines, capabilities.allows routine = false → ∀ size iterations,
      .measurement routine.name size iterations ∉ outcome.purposes := by
  subst h
  have hwell := hplan.wellFormed
  have horderly : Orderly invoker plan.runtime plan.NotConverged (plan.start s)
      (run plan invoker capabilities settings (plan.start s)) := orderly_run hwell.hasCounts
  have hcalls := horderly.calls_eq
  obtain ⟨cells, hcells, hrounds, hfirst, hall⟩ :=
    (run_course invoker settings capabilities hplan s).exists_schedule
  refine ⟨⟨cells, hcells, hrounds, ?_, fun report hreport => ?_⟩, hwell.map_key_cells capabilities,
    hwell.sizes_ascending, fun cell hcell => hwell.iterationTable_get?_of_mem_cells hcell, hcalls,
    fun routine hr hallows size iterations hmem => ?_⟩
  · rw [hcalls]
    exact hfirst.map _
  · rw [hcalls]
    exact congrArg _ (hall report hreport)
  · obtain ⟨cell, hcell, hname⟩ := measurement_mem_schedule (hfirst.subset hmem)
    rw [hcells] at hcell
    obtain ⟨routine', hr', hallows', hcell⟩ := Plan.mem_cells_iff.mp hcell
    rw [Plan.routine_of_mem_cellsOf hcell] at hname
    have heq := List.inj_on_of_nodup_map hwell.names_nodup hr' hr hname
    rw [heq, hallows] at hallows'
    cases hallows'

/-- A run in which the first cell is measured a second time at twice its count. -/
theorem run_calls_samplePlan :
    let outcome := run samplePlan sampleInvoker {} { repetitions := 1, maxDoublings := 1 }
      (samplePlan.start ())
    outcome.calls = [["init", "0", "0"], ["a", "8", "1"], ["a", "8", "2"], ["a", "9", "2"]] ∧
    ∃ cells : List (Cell × Nat), cells.map Prod.fst = [⟨"a", 8, 1⟩, ⟨"a", 9, 2⟩] ∧
      outcome.calls = (schedule 1 cells).map (Purpose.args samplePlan.runtime) := by
  intro outcome
  have hresult : outcome.result.toOption.isSome = true := by decide +kernel
  have houtcome : run samplePlan sampleInvoker {} { repetitions := 1, maxDoublings := 1 }
      (samplePlan.start ()) = outcome := rfl
  obtain ⟨⟨cells, hcells, -, -, hall⟩, -⟩ := run_calls samplePlan_accepted houtcome
  refine ⟨by decide +kernel, cells, hcells, ?_⟩
  cases h : outcome.result with
  | error e =>
    rw [h] at hresult
    cases hresult
  | ok report => exact hall report h

end Run

end RoutineTiming
