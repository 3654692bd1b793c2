import RoutineTiming.Measuring.Run
import RoutineTiming.Proofs.Measuring.Rounds
import RoutineTiming.Proofs.Plan.Accepted

/-!
# The history of a run

After the startup overhead is calibrated, a run works off a list of tasks: routines to leave out and
cells to measure. Its history is a list of steps, one for each task that is done, and what a run
leaves behind is read off its history: the events, the table of iteration counts and the matrix.

## Main definitions

* `RunTask`, `Plan.tasks` : what there is to do in a run.
* `Bench` : what settles how tasks are done.
* `Bench.Finished`, `Bench.Step` : a cell that was measured, and a task that was done.
* `Bench.finishedOf` : the measured cells of a history.
* `Bench.Course`, `RunCourse` : how the work on a list of tasks, and a whole run, can go.

## Main results

* `Bench.measureRows_eq_foldlM` : the rows of a matrix are measured task by task.
* `Bench.read_steps` : what is read off a history is read off its measured cells.
* `Bench.course_of_ready` : the work on a list of tasks has a course.
* `run_of_calibrated` : after the calibration a run works off its tasks.
* `run_course` : the run of an accepted plan has a course.
-/

namespace RoutineTiming

/-- Something to do in a run. -/
inductive RunTask where
  /-- A routine is left out. -/
  | skip (routine : Routine)
  /-- A cell is measured. -/
  | measure (cell : Cell)

/-- The cell that a task measures. -/
def RunTask.cell? : RunTask → Option Cell
  | .skip _ => none
  | .measure cell => some cell

/-- The tasks that a routine gives. -/
def Plan.tasksOf (plan : Plan) (capabilities : Capabilities) (routine : Routine) : List RunTask :=
  if capabilities.allows routine then (plan.cellsOf routine).map .measure else [.skip routine]

/-- The tasks of a plan. -/
def Plan.tasks (plan : Plan) (capabilities : Capabilities) : List RunTask :=
  plan.routines.flatMap (plan.tasksOf capabilities)

/-- The tasks of a plan measure its cells. -/
theorem Plan.filterMap_cell?_tasks (plan : Plan) (capabilities : Capabilities) :
    (plan.tasks capabilities).filterMap RunTask.cell? = plan.cells capabilities := by
  rw [tasks, cells]
  induction plan.routines with
  | nil => rfl
  | cons routine routines ih =>
    rw [List.flatMap_cons, List.filterMap_append, ih, List.filter_cons, tasksOf]
    split
    · rw [List.flatMap_cons, List.filterMap_map]
      exact congrArg (· ++ _) List.filterMap_some
    · rfl

/-- What settles how the tasks of a run are done. -/
structure Bench (σ : Type) where
  plan : Plan
  invoker : Invoker σ
  capabilities : Capabilities
  settings : Settings
  initTime : Binary64

namespace Bench

variable {σ : Type} (b : Bench σ)

/-- The rounds of a cell from a state of the invoker on. -/
def rounds (cell : Cell) (start : σ) : Rounds σ :=
  ⟨b.invoker, b.plan.runtime, b.settings, b.initTime, cell, start⟩

/-- A task that is done; the cell that it measures is entered into a matrix. -/
def perform (matrix : ResultsMatrix) : RunTask → Session σ ResultsMatrix
  | .skip routine => do
    Session.notify (skipNotice b.capabilities routine)
    return matrix
  | .measure cell => do
    let result ←
      measureCell b.plan b.invoker b.settings b.initTime cell.routine cell.size
    return matrix.insert cell.routine cell.size result

/-! ### Rows as tasks -/

theorem measureRow_eq_foldlM {routine : String} {cells : List Cell}
    (hcells : ∀ cell ∈ cells, cell.routine = routine) (matrix : ResultsMatrix) :
    measureRow b.plan b.invoker b.settings b.initTime routine (cells.map Cell.size) matrix =
      (cells.map RunTask.measure).foldlM b.perform matrix := by
  induction cells generalizing matrix with
  | nil => rfl
  | cons cell cells ih =>
    obtain ⟨rfl, hcells⟩ := List.forall_mem_cons.mp hcells
    rw [List.map_cons, List.map_cons, List.foldlM_cons, measureRow, perform, bind_assoc]
    refine bind_congr fun result => ?_
    rw [pure_bind]
    exact ih hcells _

/-- The rows of a matrix are measured task by task. -/
theorem measureRows_eq_foldlM (hplan : b.plan.WellFormed) {routines : List Routine}
    (hroutines : routines ⊆ b.plan.routines) (matrix : ResultsMatrix) :
    measureRows b.plan b.invoker b.capabilities b.settings b.initTime routines matrix =
      (routines.flatMap (b.plan.tasksOf b.capabilities)).foldlM b.perform matrix := by
  induction routines generalizing matrix with
  | nil => rfl
  | cons routine routines ih =>
    obtain ⟨hr, hroutines⟩ := List.cons_subset.mp hroutines
    rw [List.flatMap_cons, List.foldlM_append, measureRows, Plan.tasksOf]
    split
    · rw [← b.measureRow_eq_foldlM fun _ => Plan.routine_of_mem_cellsOf, hplan.map_size_cellsOf hr]
      exact bind_congr fun matrix => ih hroutines matrix
    · simp only [List.foldlM_cons, List.foldlM_nil, perform, bind_assoc, pure_bind]
      exact bind_congr fun _ => ih hroutines matrix

/-! ### Steps -/

/-- A cell that was measured from a state of the invoker on: its last round, and the measurements
of this round. -/
structure Finished where
  cell : Cell
  start : σ
  last : Nat
  measurements : List Measurement
  reached : (b.rounds cell start).Reached last
  readings_eq : (b.rounds cell start).readings last = .ok measurements
  clear : (b.rounds cell start).threshold ≤ (b.rounds cell start).rawReal measurements

namespace Finished

variable {b} (f : b.Finished)

/-- The rounds of a measured cell. -/
def rounds : Rounds σ := b.rounds f.cell f.start

/-- The result of the last round. -/
def measured : CellResult := f.rounds.result f.last f.measurements

theorem ends : f.rounds.Ends f.last (.ok f.measured) :=
  .accepted f.readings_eq f.clear

/-- The verdict on the value of a measured cell. -/
def verdict : Verdict :=
  b.plan.expectedTable.check f.cell.routine f.cell.size f.measured.value

/-- The result that is entered for a measured cell. -/
def result : CellResult := { f.measured with verified := f.verdict.verified }

/-- The notices after the last round of a measured cell. -/
def notices : List Notice :=
  f.verdict.notices f.cell.routine f.cell.size f.measured.value ++
    [.measured f.cell.routine f.cell.size f.result]

/-- What happened while a cell was measured. -/
def events : List Event := f.rounds.events f.last ++ f.notices.map .noticed

end Finished

/-- A task that was done. -/
inductive Step where
  | skipped (routine : Routine)
  | measured (cell : b.Finished)

namespace Step

variable {b}

/-- The task of a step. -/
def task : b.Step → RunTask
  | .skipped routine => .skip routine
  | .measured f => .measure f.cell

/-- What happened in a step. -/
def events : b.Step → List Event
  | .skipped routine => [.noticed (skipNotice b.capabilities routine)]
  | .measured f => f.events

/-- The matrix after a step. -/
def enter (matrix : ResultsMatrix) : b.Step → ResultsMatrix
  | .skipped _ => matrix
  | .measured f => matrix.insert f.cell.routine f.cell.size f.result

/-- The table of iteration counts after a step. -/
def write (table : IterationTable) : b.Step → IterationTable
  | .skipped _ => table
  | .measured f => f.rounds.doubledTable table f.last

end Step

/-- How the work on a list of tasks can go: all of them are done, or one cell after some steps is
given up in its last round. -/
inductive Course (tasks : List RunTask) (matrix : ResultsMatrix) (table : IterationTable) :
    Except BenchError ResultsMatrix → IterationTable → List Event → Prop
  | finished (steps : List b.Step) (htasks : tasks = steps.map Step.task) :
      Course tasks matrix table (.ok (steps.foldl Step.enter matrix))
        (steps.foldl Step.write table) (steps.flatMap Step.events)
  | stopped (steps : List b.Step) (cell : Cell) (rest : List RunTask) (start : σ) (last : Nat)
      (e : BenchError) (htasks : tasks = steps.map Step.task ++ .measure cell :: rest)
      (hreached : (b.rounds cell start).Reached last)
      (hends : (b.rounds cell start).Ends last (.error e)) :
      Course tasks matrix table (.error e)
        ((b.rounds cell start).doubledTable (steps.foldl Step.write table) last)
        (steps.flatMap Step.events ++ (b.rounds cell start).events last)

variable {b}

/-! ### The measured cells of a history -/

/-- The cell that was measured in a step. -/
def Step.finished? : b.Step → Option b.Finished
  | .skipped _ => none
  | .measured f => some f

/-- The cells that were measured in a history. -/
def finishedOf (steps : List b.Step) : List b.Finished := steps.filterMap Step.finished?

/-- The key of a measured cell. -/
def Finished.key (f : b.Finished) : String × Nat := f.cell.key

theorem map_cell_finishedOf (steps : List b.Step) :
    (finishedOf steps).map Finished.cell = (steps.map Step.task).filterMap RunTask.cell? := by
  induction steps with
  | nil => rfl
  | cons step steps ih =>
    cases step with
    | skipped routine => exact ih
    | measured f => exact congrArg (f.cell :: ·) ih

/-- What is read off the events of a history is read off those of its measured cells, if it is read
piece by piece and nothing is read off the steps that leave out a routine. -/
theorem read_steps {β : Type} {read : List Event → List β}
    (happend : ∀ events events', read (events ++ events') = read events ++ read events')
    (hskipped : ∀ routine, read [.noticed (skipNotice b.capabilities routine)] = [])
    (steps : List b.Step) :
    read (steps.flatMap Step.events) = (finishedOf steps).flatMap fun f => read f.events := by
  induction steps with
  | nil => exact List.self_eq_append_left.mp (happend [] [])
  | cons step steps ih =>
    rw [List.flatMap_cons, happend, ih]
    cases step with
    | skipped routine => exact congrArg (· ++ _) (hskipped routine)
    | measured f => rfl

/-! ### Courses -/

/-- A step in front of a course. -/
theorem Course.cons (step : b.Step) {tasks : List RunTask} {matrix : ResultsMatrix}
    {table table' : IterationTable} {result : Except BenchError ResultsMatrix}
    {events : List Event} (h : b.Course tasks (step.enter matrix) (step.write table) result table'
      events) :
    b.Course (step.task :: tasks) matrix table result table' (step.events ++ events) := by
  cases h with
  | finished steps htasks => exact .finished (step :: steps) (by rw [htasks, List.map_cons])
  | stopped steps cell rest start last e htasks hreached hends =>
    rw [← List.append_assoc]
    exact .stopped (step :: steps) cell rest start last e
      (by rw [htasks, List.map_cons, List.cons_append]) hreached hends

/-! ### The work on tasks -/

theorem perform_skip (routine : Routine) (matrix : ResultsMatrix) (state : SessionState σ) :
    b.perform matrix (.skip routine) state =
      ⟨.ok matrix, state, [.noticed (skipNotice b.capabilities routine)]⟩ := rfl

/-- What follows the rounds of a cell that is measured. -/
theorem perform_measure_of_ok {cell : Cell} {state state' : SessionState σ} {events : List Event}
    {measured : CellResult} (matrix : ResultsMatrix)
    (h : measureAdaptive b.invoker b.plan.runtime b.settings b.initTime cell.routine cell.size
      state = ⟨.ok measured, state', events⟩) :
    b.perform matrix (.measure cell) state =
      let verdict := b.plan.expectedTable.check cell.routine cell.size measured.value
      let result := { measured with verified := verdict.verified }
      ⟨.ok (matrix.insert cell.routine cell.size result), state',
        events ++ (verdict.notices cell.routine cell.size measured.value ++
          [Notice.measured cell.routine cell.size result]).map .noticed⟩ := by
  rw [perform, measureCell, bind_assoc, Session.bind_of_apply_ok h, bind_assoc,
    Session.bind_of_apply_ok (Session.notifyAll_apply _ _)]
  simp only [List.map_append]
  rfl

/-- A cell that is given up is not entered into the matrix. -/
theorem perform_measure_of_error {cell : Cell} {state state' : SessionState σ}
    {events : List Event} {e : BenchError} (matrix : ResultsMatrix)
    (h : measureAdaptive b.invoker b.plan.runtime b.settings b.initTime cell.routine cell.size
      state = ⟨.error e, state', events⟩) :
    b.perform matrix (.measure cell) state = ⟨.error e, state', events⟩ := by
  rw [perform, measureCell, bind_assoc, Session.bind_of_apply_error h]

variable (b) in
/-- A cell with a count is measured, or given up in its last round. -/
theorem perform_measure (cell : Cell) (matrix : ResultsMatrix) (start : σ) {table : IterationTable}
    (hcount : table.get? cell.routine cell.size = some cell.count) (hword : cell.count ≤ maxWord) :
    (∃ (f : b.Finished) (s : σ), f.cell = cell ∧
      b.perform matrix (.measure cell) ⟨start, table⟩ =
        ⟨.ok (Step.enter matrix (.measured f)), ⟨s, Step.write table (.measured f)⟩, f.events⟩) ∨
    ∃ (last : Nat) (e : BenchError) (s : σ), (b.rounds cell start).Reached last ∧
      (b.rounds cell start).Ends last (.error e) ∧
      b.perform matrix (.measure cell) ⟨start, table⟩ =
        ⟨.error e, ⟨s, (b.rounds cell start).doubledTable table last⟩,
          (b.rounds cell start).events last⟩ := by
  obtain ⟨last, hmakes⟩ := Rounds.exists_makes (r := b.rounds cell start) hcount hword
  rcases houtcome : measureAdaptive b.invoker b.plan.runtime b.settings b.initTime cell.routine
    cell.size ⟨start, table⟩ with ⟨result, ⟨s, table'⟩, events⟩
  have hmakes : (b.rounds cell start).Makes table last ⟨result, ⟨s, table'⟩, events⟩ :=
    houtcome ▸ hmakes
  obtain ⟨hreached, hends, rfl, rfl, -⟩ := hmakes
  cases hends with
  | accepted hreadings hclear =>
    refine .inl ⟨⟨cell, start, last, _, hreached, hreadings, hclear⟩, s, rfl, ?_⟩
    rw [perform_measure_of_ok matrix houtcome]
    rfl
  | exhausted hswamped hlast =>
    exact .inr ⟨last, _, s, hreached, .exhausted hswamped hlast,
      perform_measure_of_error matrix houtcome⟩
  | failed hreadings =>
    exact .inr ⟨last, _, s, hreached, .failed hreadings, perform_measure_of_error matrix houtcome⟩

/-- The table has the first count of each cell that is still to be measured, and no pair is measured
twice. -/
structure Ready (tasks : List RunTask) (table : IterationTable) : Prop where
  get?_eq : ∀ cell ∈ tasks.filterMap RunTask.cell?,
    table.get? cell.routine cell.size = some cell.count
  count_le : ∀ cell ∈ tasks.filterMap RunTask.cell?, cell.count ≤ maxWord
  pairwise_ne_key : (tasks.filterMap RunTask.cell?).Pairwise fun c c' => c.key ≠ c'.key

/-- Measuring a cell leaves the counts of the cells that come after it. -/
theorem Ready.write {f : b.Finished} {tasks : List RunTask} {table : IterationTable}
    (h : Ready (.measure f.cell :: tasks) table) :
    Ready tasks (Step.write table (.measured f)) := by
  have hcells : (RunTask.measure f.cell :: tasks).filterMap RunTask.cell? =
      f.cell :: tasks.filterMap RunTask.cell? := rfl
  have hget := h.get?_eq
  have hcount := h.count_le
  have hpairs := h.pairwise_ne_key
  rw [hcells, List.forall_mem_cons] at hget hcount
  rw [hcells, List.pairwise_cons] at hpairs
  refine ⟨fun cell hcell => ?_, hcount.2, hpairs.2⟩
  rw [Step.write, Rounds.get?_doubledTable hget.1 hcount.1, if_neg, hget.2 cell hcell]
  rintro ⟨hroutine, hsize⟩
  exact hpairs.1 cell hcell (Prod.ext hroutine.symm hsize.symm)

variable (b) in
/-- The work on tasks that are ready has a course. -/
theorem course_of_ready {tasks : List RunTask} {table : IterationTable} (h : Ready tasks table)
    (matrix : ResultsMatrix) (s : σ) :
    let outcome := tasks.foldlM b.perform matrix ⟨s, table⟩
    b.Course tasks matrix table outcome.result outcome.state.table outcome.events := by
  induction tasks generalizing table matrix s with
  | nil => exact .finished [] rfl
  | cons task tasks ih =>
    rw [List.foldlM_cons]
    cases task with
    | skip routine =>
      rw [Session.bind_of_apply_ok (perform_skip routine matrix _)]
      exact (ih ⟨h.get?_eq, h.count_le, h.pairwise_ne_key⟩ matrix s).cons (.skipped routine)
    | measure cell =>
      have hmem : cell ∈ (RunTask.measure cell :: tasks).filterMap RunTask.cell? :=
        List.mem_cons_self
      rcases b.perform_measure cell matrix s (h.get?_eq cell hmem) (h.count_le cell hmem) with
        ⟨f, s', rfl, hf⟩ | ⟨last, e, s', hreached, hends, he⟩
      · rw [Session.bind_of_apply_ok hf]
        -- The table has changed, but not at the cells that are still to be measured.
        exact (ih h.write _ s').cons (.measured f)
      · rw [Session.bind_of_apply_error he]
        exact .stopped [] cell tasks s last e rfl hreached hends

end Bench

/-! ### The calibration and the run -/

/-- What happens while the startup overhead is measured with given answers. -/
def startupLog (runtime : Runtime) (answers : List (Except BenchError Invocation)) : List Event :=
  answers.map (.launched .startup (Purpose.startup.args runtime))

section Run

variable {σ : Type} {invoker : Invoker σ} {runtime : Runtime} {settings : Settings}

variable (invoker runtime) in
theorem collectStartups_log (repetitions : Nat) (times : List Binary64) (state : SessionState σ) :
    let outcome := collectStartups invoker runtime repetitions times state
    outcome.state.table = state.table ∧
    ∃ answers, outcome.events = startupLog runtime answers ∧ answers.length ≤ repetitions ∧
      ∀ times', outcome.result = .ok times' → answers.length = repetitions := by
  induction repetitions generalizing times state with
  | zero => exact ⟨rfl, [], rfl, Nat.le_refl _, fun _ _ => rfl⟩
  | succ repetitions ih =>
    have hfirst := Session.examine_apply invoker runtime .startup (Invocation.startupTime runtime)
      state
    set answer := (invoker (Purpose.startup.args runtime) state.invoker).1
    rw [collectStartups_succ]
    cases htime : answer >>= Invocation.startupTime runtime with
    | error e =>
      rw [htime] at hfirst
      rw [Session.bind_of_apply_error hfirst]
      exact ⟨rfl, [answer], rfl, Nat.succ_le_succ (Nat.zero_le _), fun _ h => by cases h⟩
    | ok time =>
      rw [htime] at hfirst
      rw [Session.bind_of_apply_ok hfirst]
      obtain ⟨htable, answers, hevents, hle, hlength⟩ := ih (times ++ [time])
        ⟨(invoker (Purpose.startup.args runtime) state.invoker).2, state.table⟩
      refine ⟨htable, answer :: answers, ?_, Nat.succ_le_succ hle, fun times' h => ?_⟩
      · rw [startupLog, List.map_cons]
        exact congrArg _ hevents
      · rw [List.length_cons, hlength times' h]

variable (invoker runtime settings) in
/-- The calibration launches nothing but the routine that does nothing, and changes no count. -/
theorem calibrate_log (state : SessionState σ) :
    let outcome := calibrate invoker runtime settings state
    outcome.state.table = state.table ∧
    ∃ answers, outcome.events = startupLog runtime answers ∧
      answers.length ≤ settings.repetitions ∧
      ∀ initTime, outcome.result = .ok initTime → answers.length = settings.repetitions := by
  obtain ⟨htable, answers, hevents, hle, hlength⟩ :=
    collectStartups_log invoker runtime settings.repetitions [] state
  rw [calibrate, Session.bind_pure_apply]
  refine ⟨htable, answers, hevents, hle, fun initTime h => ?_⟩
  cases hresult : (collectStartups invoker runtime settings.repetitions [] state).result with
  | error e =>
    rw [hresult] at h
    cases h
  | ok times => exact hlength times hresult

/-- How the run of a plan can go: it stops in the calibration, or goes on with its tasks. -/
inductive RunCourse (plan : Plan) (invoker : Invoker σ) (capabilities : Capabilities)
    (settings : Settings) (table : IterationTable) :
    Except BenchError RunReport → IterationTable → List Event → Prop
  | uncalibrated (answers : List (Except BenchError Invocation)) (e : BenchError)
      (hlength : answers.length ≤ settings.repetitions) :
      RunCourse plan invoker capabilities settings table (.error e) table
        (startupLog plan.runtime answers)
  | calibrated (answers : List (Except BenchError Invocation)) (initTime : Binary64)
      (hlength : answers.length = settings.repetitions)
      {result : Except BenchError ResultsMatrix} {table' : IterationTable} {events : List Event}
      (hcourse : Bench.Course ⟨plan, invoker, capabilities, settings, initTime⟩
        (plan.tasks capabilities) {} table result table' events) :
      RunCourse plan invoker capabilities settings table
        (result.map fun matrix => { initTime, matrix }) table'
        (startupLog plan.runtime answers ++ .noticed (.calibrated initTime) :: events)

variable {plan : Plan} {capabilities : Capabilities}

/-- An accepted plan starts ready for its tasks. -/
theorem Plan.Accepted.ready (h : plan.Accepted) (capabilities : Capabilities) :
    Bench.Ready (plan.tasks capabilities) plan.iterationTable := by
  constructor
  · rw [filterMap_cell?_tasks]
    exact fun cell hcell => h.wellFormed.iterationTable_get?_of_mem_cells hcell
  · rw [filterMap_cell?_tasks]
    intro cell hcell
    obtain ⟨routine, hr, -, hcell⟩ := mem_cells_iff.mp hcell
    obtain ⟨i, -, hcount⟩ := exists_place_of_mem_cellsOf hcell
    exact h.iterations_le routine hr _ (List.mem_of_getElem? hcount)
  · rw [filterMap_cell?_tasks]
    exact h.wellFormed.cells_pairwise_ne_key capabilities

/-- After the calibration a run works off its tasks. -/
theorem run_of_calibrated (hplan : plan.WellFormed) {state state' : SessionState σ}
    {initTime : Binary64} {events : List Event}
    (h : calibrate invoker plan.runtime settings state = ⟨.ok initTime, state', events⟩) :
    run plan invoker capabilities settings state =
      let b : Bench σ := ⟨plan, invoker, capabilities, settings, initTime⟩
      let outcome := (plan.tasks capabilities).foldlM b.perform {} state'
      ⟨outcome.result.map fun matrix => { initTime, matrix }, outcome.state,
        events ++ .noticed (.calibrated initTime) :: outcome.events⟩ := by
  let b : Bench σ := ⟨plan, invoker, capabilities, settings, initTime⟩
  have hrows : measureRows plan invoker capabilities settings initTime plan.routines {} =
      (plan.tasks capabilities).foldlM b.perform {} :=
    b.measureRows_eq_foldlM hplan (List.Subset.refl _) {}
  rw [run, Session.bind_of_apply_ok h, Session.bind_of_apply_ok (Session.notify_apply _ _), hrows]
  dsimp only
  rw [Session.bind_pure_apply]
  rfl

/-- The startup overhead in a report is the one that was calibrated. -/
theorem calibrate_of_run_eq_ok {state : SessionState σ} {report : RunReport}
    (h : (run plan invoker capabilities settings state).result = .ok report) :
    (calibrate invoker plan.runtime settings state).result = .ok report.initTime := by
  cases hcalibrate : (calibrate invoker plan.runtime settings state).result with
  | error e =>
    rw [run, Session.bind_of_error _ hcalibrate] at h
    cases h
  | ok initTime =>
    rw [run, Session.bind_of_ok _ hcalibrate,
      Session.bind_of_apply_ok (Session.notify_apply _ _), Session.bind_pure_apply] at h
    dsimp only at h
    generalize measureRows plan invoker capabilities settings initTime plan.routines {} _ =
      outcome at h
    rcases outcome with ⟨e | matrix, state', events⟩
    · cases h
    · cases h
      rfl

variable (invoker capabilities settings) in
/-- The run of an accepted plan has a course. -/
theorem run_course (hplan : plan.Accepted) (s : σ) :
    let outcome := run plan invoker capabilities settings (plan.start s)
    RunCourse plan invoker capabilities settings plan.iterationTable outcome.result
      outcome.state.table outcome.events := by
  have hlog := calibrate_log invoker plan.runtime settings (plan.start s)
  rcases hcalibrate : calibrate invoker plan.runtime settings (plan.start s) with
    ⟨result, ⟨s', table⟩, events⟩
  rw [hcalibrate] at hlog
  obtain ⟨rfl, answers, rfl, hle, hlength⟩ := hlog
  cases result with
  | error e =>
    rw [run, Session.bind_of_apply_error hcalibrate]
    exact .uncalibrated answers e hle
  | ok initTime =>
    rw [run_of_calibrated hplan.wellFormed hcalibrate]
    exact .calibrated answers initTime (hlength initTime rfl)
      (Bench.course_of_ready _ (hplan.ready capabilities) {} s')

end Run

end RoutineTiming
