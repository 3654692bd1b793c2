import RoutineTiming.CommandLine.Program
import RoutineTiming.Proofs.Measuring.FailStop
import RoutineTiming.Proofs.Measuring.History
import RoutineTiming.Proofs.Report.Streams

/-!
# The log of a run

What a run of an accepted plan launches and notices, in order. The launches that calibrate come
first, directly followed by the notice of the startup overhead; then every routine of the plan has
its turn. A routine whose requirement is missing gives one notice. For any other routine each size
is measured in rounds: each launch that succeeds is followed by its diagnostic lines, each swamped
round that is made again by a warning with the next count, and the accepted round by a warning if
the value is not the expected one, and the notice of the cell. A run that ends with an error has the
same log up to what failed.

## Main definitions

* `Completes`, `BreaksOff` : repeated launches that all give values, or break off.
* `CellLog` : the rounds of a cell.
* `TasksLog`, `RunLog` : the tasks of a run, and a whole run.

## Main results

* `Rounds.cellLog` : the log of the rounds of a cell.
* `Bench.Course.tasksLog` : the log of the work on tasks.
* `runLog_of_run` : the log of the run of an accepted plan.
* `run_log` : the log together with what a console writes of it.
-/

namespace RoutineTiming

/-! ### Repeated launches -/

section Repeated

variable {α : Type} (repetitions : Nat) (read : Except BenchError Invocation → Except BenchError α)

/-- A number of answers that all give values. -/
def Completes (answers : List (Except BenchError Invocation)) (values : List α) : Prop :=
  answers.length = repetitions ∧ answers.mapM read = .ok values

/-- Fewer answers that all give values, and then one that gives an error. -/
inductive BreaksOff : List (Except BenchError Invocation) → BenchError → Prop
  | intro {front : List (Except BenchError Invocation)} {last : Except BenchError Invocation}
      {values : List α} {e : BenchError} (hlength : front.length < repetitions)
      (hfront : front.mapM read = .ok values) (hlast : read last = .error e) :
      BreaksOff (front ++ [last]) e

variable {repetitions read}

/-- Another answer in front that gives a value. -/
theorem BreaksOff.cons {answers : List (Except BenchError Invocation)} {e : BenchError}
    (h : BreaksOff repetitions read answers e) {first : Except BenchError Invocation} {a : α}
    (hfirst : read first = .ok a) : BreaksOff (repetitions + 1) read (first :: answers) e := by
  cases h with
  | intro hlength hfront hlast =>
    exact .intro (Nat.succ_lt_succ hlength)
      (mapM_cons_eq_ok_iff.mpr ⟨a, _, hfirst, hfront, rfl⟩) hlast

variable (read) in
/-- Of a number of answers all give values, or the first ones break off. -/
theorem completes_or_breaksOff (answers : List (Except BenchError Invocation)) :
    (∃ values, Completes answers.length read answers values) ∨
      ∃ front last rest e, answers = front ++ last :: rest ∧ answers.mapM read = .error e ∧
        read last = .error e ∧ BreaksOff answers.length read (front ++ [last]) e := by
  induction answers with
  | nil => exact .inl ⟨[], rfl, rfl⟩
  | cons answer answers ih =>
    cases hread : read answer with
    | error e =>
      exact .inr ⟨[], answer, answers, e, rfl, mapM_cons_eq_error_iff.mpr (.inl hread), hread,
        .intro (Nat.succ_pos _) rfl hread⟩
    | ok a =>
      rcases ih with ⟨values, -, hvalues⟩ | ⟨front, last, rest, e, rfl, herror, hlast, hbreaks⟩
      · exact .inl ⟨a :: values, rfl, mapM_cons_eq_ok_iff.mpr ⟨a, values, hread, hvalues, rfl⟩⟩
      · exact .inr ⟨answer :: front, last, rest, e, rfl,
          mapM_cons_eq_error_iff.mpr (.inr ⟨a, hread, herror⟩), hlast, hbreaks.cons hread⟩

end Repeated

/-- The startup time that an answer gives. -/
def startupTimeOf (runtime : Runtime) (answer : Except BenchError Invocation) :
    Except BenchError Binary64 :=
  answer >>= Invocation.startupTime runtime

/-! ### What a log looks like -/

/-- The launches of a routine at a size and a count with given answers, each that gives a
measurement followed by its diagnostic lines. -/
def roundLog (runtime : Runtime) (routine : String) (size count : Nat)
    (answers : List (Except BenchError Invocation)) : List Event :=
  let purpose := Purpose.measurement routine size count
  launchLog routine purpose (purpose.args runtime) answers

/-- The log of a cell from a round at a count on, when the count may still be doubled some times. -/
inductive CellLog (runtime : Runtime) (settings : Settings) (initTime : Binary64)
    (routine : String) (size : Nat) :
    (count doublings : Nat) → Except BenchError CellResult → List Event → Prop
  | failed {count doublings : Nat} {answers : List (Except BenchError Invocation)} {e : BenchError}
      (hanswers : BreaksOff settings.repetitions (measurementOf routine) answers e) :
      CellLog runtime settings initTime routine size count doublings (.error e)
        (roundLog runtime routine size count answers)
  | accepted {count doublings : Nat} {answers : List (Except BenchError Invocation)}
      {measurements : List Measurement} {result : CellResult}
      (hanswers : Completes settings.repetitions (measurementOf routine) answers measurements)
      (hresult : result = (Samples.of measurements).aggregate count initTime settings.statistic)
      (hclear : settings.swampFactor * initTime ≤ result.rawReal) :
      CellLog runtime settings initTime routine size count doublings (.ok result)
        (roundLog runtime routine size count answers)
  | exhausted {count doublings : Nat} {answers : List (Except BenchError Invocation)}
      {measurements : List Measurement} {result : CellResult}
      (hanswers : Completes settings.repetitions (measurementOf routine) answers measurements)
      (hresult : result = (Samples.of measurements).aggregate count initTime settings.statistic)
      (hswamped : ¬ settings.swampFactor * initTime ≤ result.rawReal)
      (hlast : doublings = 0 ∨ doubled count ≤ count) :
      CellLog runtime settings initTime routine size count doublings
        (.error (.noConvergence routine size count)) (roundLog runtime routine size count answers)
  | retried {count doublings : Nat} {answers : List (Except BenchError Invocation)}
      {measurements : List Measurement} {result : CellResult} {final : Except BenchError CellResult}
      {events : List Event}
      (hanswers : Completes settings.repetitions (measurementOf routine) answers measurements)
      (hresult : result = (Samples.of measurements).aggregate count initTime settings.statistic)
      (hswamped : ¬ settings.swampFactor * initTime ≤ result.rawReal)
      (hmore : count < doubled count)
      (hnext : CellLog runtime settings initTime routine size (doubled count) doublings final
        events) :
      CellLog runtime settings initTime routine size count (doublings + 1) final
        (roundLog runtime routine size count answers ++
          .noticed (.swamped routine size result.rawReal initTime (doubled count)) :: events)

/-- The log of tasks whose cells are entered into a matrix. -/
inductive TasksLog (plan : Plan) (capabilities : Capabilities) (settings : Settings)
    (initTime : Binary64) :
    List RunTask → ResultsMatrix → Except BenchError ResultsMatrix → List Event → Prop
  | done {matrix : ResultsMatrix} :
      TasksLog plan capabilities settings initTime [] matrix (.ok matrix) []
  | skipped {routine : Routine} {tasks : List RunTask} {matrix : ResultsMatrix}
      {final : Except BenchError ResultsMatrix} {events : List Event}
      (hnext : TasksLog plan capabilities settings initTime tasks matrix final events) :
      TasksLog plan capabilities settings initTime (.skip routine :: tasks) matrix final
        (.noticed (skipNotice capabilities routine) :: events)
  | stopped {cell : Cell} {tasks : List RunTask} {matrix : ResultsMatrix} {e : BenchError}
      {events : List Event}
      (hcell : CellLog plan.runtime settings initTime cell.routine cell.size cell.count
        settings.maxDoublings (.error e) events) :
      TasksLog plan capabilities settings initTime (.measure cell :: tasks) matrix (.error e) events
  | measured {cell : Cell} {tasks : List RunTask} {matrix : ResultsMatrix}
      {measured result : CellResult} {rounds events : List Event}
      {final : Except BenchError ResultsMatrix}
      (hcell : CellLog plan.runtime settings initTime cell.routine cell.size cell.count
        settings.maxDoublings (.ok measured) rounds)
      (hresult : result = { measured with
        verified := (plan.expectedTable.check cell.routine cell.size measured.value).verified })
      (hverified : result.verified ≠ some false)
      (hnext : TasksLog plan capabilities settings initTime tasks
        (matrix.insert cell.routine cell.size result) final events) :
      TasksLog plan capabilities settings initTime (.measure cell :: tasks) matrix final
        (rounds ++ .noticed (.measured cell.routine cell.size result) :: events)
  | mismatched {cell : Cell} {tasks : List RunTask} {matrix : ResultsMatrix}
      {measured result : CellResult} {expected : String} {rounds events : List Event}
      {final : Except BenchError ResultsMatrix}
      (hcell : CellLog plan.runtime settings initTime cell.routine cell.size cell.count
        settings.maxDoublings (.ok measured) rounds)
      (hresult : result = { measured with
        verified := (plan.expectedTable.check cell.routine cell.size measured.value).verified })
      (hverified : result.verified = some false)
      (hexpected : plan.expectedTable.get? cell.routine cell.size = some expected)
      (hnext : TasksLog plan capabilities settings initTime tasks
        (matrix.insert cell.routine cell.size result) final events) :
      TasksLog plan capabilities settings initTime (.measure cell :: tasks) matrix final
        (rounds ++ .noticed (.mismatch cell.routine cell.size result.value expected) ::
          .noticed (.measured cell.routine cell.size result) :: events)

/-- The log of the run of a plan. -/
inductive RunLog (plan : Plan) (capabilities : Capabilities) (settings : Settings) :
    Except BenchError RunReport → List Event → Prop
  | uncalibrated {answers : List (Except BenchError Invocation)} {e : BenchError}
      (hanswers : BreaksOff settings.repetitions (startupTimeOf plan.runtime) answers e) :
      RunLog plan capabilities settings (.error e) (startupLog plan.runtime answers)
  | calibrated {answers : List (Except BenchError Invocation)} {times : List Binary64}
      {initTime : Binary64} {final : Except BenchError ResultsMatrix} {events : List Event}
      (hanswers : Completes settings.repetitions (startupTimeOf plan.runtime) answers times)
      (hinit : initTime = settings.statistic.reduce times)
      (htasks : TasksLog plan capabilities settings initTime (plan.tasks capabilities) {} final
        events) :
      RunLog plan capabilities settings (final.map fun matrix => { initTime, matrix })
        (startupLog plan.runtime answers ++ .noticed (.calibrated initTime) :: events)

/-! ### The rounds of a cell -/

/-- Nothing follows the launch whose answer gives no measurement. -/
theorem launchLog_append_cons_of_error {routine : String} {purpose : Purpose} {args : List String}
    {last : Except BenchError Invocation} {e : BenchError}
    (h : measurementOf routine last = .error e) (front rest : List (Except BenchError Invocation)) :
    launchLog routine purpose args (front ++ last :: rest) =
      launchLog routine purpose args (front ++ [last]) := by
  induction front with
  | nil =>
    rw [List.nil_append, List.nil_append, launchLog_cons_of_error h, launchLog_cons_of_error h]
  | cons answer front ih =>
    rw [List.cons_append, List.cons_append]
    cases hm : measurementOf routine answer with
    | error e' => rw [launchLog_cons_of_error hm, launchLog_cons_of_error hm]
    | ok m => rw [launchLog_cons_of_ok hm, launchLog_cons_of_ok hm, ih]

namespace Rounds

variable {σ : Type} {r : Rounds σ}

theorem doubled_iterations (k : Nat) : doubled (r.iterations k) = r.iterations (k + 1) :=
  doubled_doubledTimes _ _

/-- The log of a cell in the round that ends it. -/
theorem Ends.cellLog {k doublings : Nat} {final : Except BenchError CellResult}
    (h : r.Ends k final)
    (hlast : r.Last k → doublings = 0 ∨ doubled (r.iterations k) ≤ r.iterations k) :
    CellLog r.runtime r.settings r.initTime r.cell.routine r.cell.size (r.iterations k) doublings
      final (r.log k) := by
  have hcomplete {measurements : List Measurement} (h : r.readings k = .ok measurements) :
      Completes r.settings.repetitions (measurementOf r.cell.routine) (r.answers k) measurements :=
    ⟨length_answers k, h⟩
  cases h with
  | accepted hreadings hclear => exact .accepted (hcomplete hreadings) rfl hclear
  | exhausted hswamped hk =>
    obtain ⟨measurements, hreadings, hswamped⟩ := hswamped
    exact .exhausted (hcomplete hreadings) rfl hswamped (hlast hk)
  | failed hreadings =>
    rcases completes_or_breaksOff (measurementOf r.cell.routine) (r.answers k) with
      ⟨measurements, -, hok⟩ | ⟨front, last, rest, e', hanswers, herror, hlast, hbreaks⟩
    · rw [readings, hok] at hreadings
      cases hreadings
    · rw [readings, herror] at hreadings
      cases hreadings
      rw [length_answers] at hbreaks
      rw [log, hanswers, launchLog_append_cons_of_error hlast]
      exact .failed hbreaks

/-- The log of a cell from a round on, if the rounds up to the last one are swamped. -/
theorem Ends.cellLog_of_swamped {k n : Nat} {final : Except BenchError CellResult}
    (hends : r.Ends (k + n) final) (hk : k + n ≤ r.settings.maxDoublings)
    (hswamped : ∀ j < k + n, r.Swamped j ∧ ¬ r.Last j) :
    CellLog r.runtime r.settings r.initTime r.cell.routine r.cell.size (r.iterations k)
      (r.settings.maxDoublings - k) final
      (((List.range' k n).flatMap fun j => r.log j ++ r.warning j) ++ r.log (k + n)) := by
  induction n generalizing k with
  | zero =>
    refine hends.cellLog fun hlast => ?_
    rw [doubled_iterations]
    exact hlast.imp_left fun h => by omega
  | succ n ih =>
    obtain ⟨⟨measurements, hreadings, hbelow⟩, hmore⟩ := hswamped k (by omega)
    have hgrows : r.iterations k < r.iterations (k + 1) :=
      Nat.lt_of_not_le fun hle => hmore (.inr hle)
    rw [show k + (n + 1) = k + 1 + n by omega] at hends hk hswamped ⊢
    have hnext := ih hends hk hswamped
    rw [← doubled_iterations] at hnext hgrows
    rw [show r.settings.maxDoublings - k = r.settings.maxDoublings - (k + 1) + 1 by omega,
      List.range'_succ, List.flatMap_cons, warning, hreadings, ← doubled_iterations]
    simp only [List.append_assoc, List.cons_append, List.nil_append]
    exact .retried ⟨length_answers k, hreadings⟩ rfl hbelow hgrows hnext

/-- The log of a cell whose rounds are made. -/
theorem Ends.cellLog_of_reached {k : Nat} {final : Except BenchError CellResult}
    (hends : r.Ends k final) (hreached : r.Reached k) (hword : r.cell.count ≤ maxWord) :
    CellLog r.runtime r.settings r.initTime r.cell.routine r.cell.size r.cell.count
      r.settings.maxDoublings final (r.events k) := by
  have hcount : r.iterations 0 = r.cell.count := doubledTimes_zero hword
  rw [← Nat.zero_add k] at hends hreached
  have hcell := hends.cellLog_of_swamped hreached.le_maxDoublings hreached
  rwa [hcount, ← List.range_eq_range', Nat.zero_add] at hcell

end Rounds

/-! ### The tasks of a run -/

namespace Bench

variable {σ : Type} {b : Bench σ}

/-- A task that is done stands in front of the log of the others. -/
theorem tasksLog_cons (step : b.Step) {tasks : List RunTask} {matrix : ResultsMatrix}
    {final : Except BenchError ResultsMatrix} {events : List Event}
    (hword : ∀ cell, step.task.cell? = some cell → cell.count ≤ maxWord)
    (h : TasksLog b.plan b.capabilities b.settings b.initTime tasks (step.enter matrix) final
      events) :
    TasksLog b.plan b.capabilities b.settings b.initTime (step.task :: tasks) matrix final
      (step.events ++ events) := by
  cases step with
  | skipped routine => exact .skipped h
  | measured f =>
    have hcell := f.ends.cellLog_of_reached f.reached (hword f.cell rfl)
    have hnotices : f.notices = f.verdict.notices f.cell.routine f.cell.size f.measured.value ++
        [.measured f.cell.routine f.cell.size f.result] := rfl
    have hverified : f.result.verified = f.verdict.verified := rfl
    rw [Step.events, Finished.events, hnotices, List.append_assoc]
    cases hverdict : f.verdict with
    | differs expected =>
      rw [hverdict] at hverified
      exact .mismatched hcell rfl hverified (ExpectedTable.get?_of_check_eq_differs hverdict) h
    | agrees =>
      rw [hverdict] at hverified
      exact .measured hcell rfl (by rw [hverified]; decide) h
    | unchecked =>
      rw [hverdict] at hverified
      exact .measured hcell rfl (by rw [hverified]; decide) h

/-- The log of the work on tasks. -/
theorem Course.tasksLog {tasks : List RunTask} {matrix : ResultsMatrix}
    {table table' : IterationTable} {final : Except BenchError ResultsMatrix} {events : List Event}
    (h : b.Course tasks matrix table final table' events)
    (hwords : ∀ cell ∈ tasks.filterMap RunTask.cell?, cell.count ≤ maxWord) :
    TasksLog b.plan b.capabilities b.settings b.initTime tasks matrix final events := by
  have hsteps (steps : List b.Step) {rest : List RunTask} {matrix : ResultsMatrix}
      {final : Except BenchError ResultsMatrix} {events : List Event}
      (hwords : ∀ task ∈ steps.map Step.task, ∀ cell, task.cell? = some cell →
        cell.count ≤ maxWord)
      (hrest : TasksLog b.plan b.capabilities b.settings b.initTime rest
        (steps.foldl Step.enter matrix) final events) :
      TasksLog b.plan b.capabilities b.settings b.initTime (steps.map Step.task ++ rest) matrix
        final (steps.flatMap Step.events ++ events) := by
    induction steps generalizing matrix with
    | nil => exact hrest
    | cons step steps ih =>
      obtain ⟨hword, hwords⟩ := List.forall_mem_cons.mp hwords
      rw [List.flatMap_cons, List.append_assoc]
      exact tasksLog_cons step hword (ih hwords hrest)
  have hwords (task : RunTask) (htask : task ∈ tasks) (cell : Cell)
      (hcell : task.cell? = some cell) : cell.count ≤ maxWord :=
    hwords cell (List.mem_filterMap.mpr ⟨task, htask, hcell⟩)
  cases h with
  | finished steps htasks =>
    subst htasks
    rw [← List.append_nil (steps.map Step.task), ← List.append_nil (steps.flatMap Step.events)]
    exact hsteps steps hwords .done
  | stopped steps cell rest start last e htasks hreached hends =>
    subst htasks
    obtain ⟨hsome, hrest⟩ := List.forall_mem_append.mp hwords
    have hcell := (List.forall_mem_cons.mp hrest).1 cell rfl
    exact hsteps steps hsome (.stopped (hends.cellLog_of_reached hreached hcell))

end Bench

/-! ### The calibration and the run -/

section Run

variable {σ : Type} {invoker : Invoker σ} {settings : Settings}

/-- The startup times are all collected, or the launches break off. -/
theorem collectStartups_cases (invoker : Invoker σ) (runtime : Runtime) (repetitions : Nat)
    (times : List Binary64) (state : SessionState σ) :
    let outcome := collectStartups invoker runtime repetitions times state
    ∃ answers, outcome.events = startupLog runtime answers ∧
      ((∃ new, Completes repetitions (startupTimeOf runtime) answers new ∧
          outcome.result = .ok (times ++ new)) ∨
        ∃ e, BreaksOff repetitions (startupTimeOf runtime) answers e ∧
          outcome.result = .error e) := by
  induction repetitions generalizing times state with
  | zero => exact ⟨[], rfl, .inl ⟨[], ⟨rfl, rfl⟩, (List.append_nil times).symm ▸ rfl⟩⟩
  | succ repetitions ih =>
    have hfirst := Session.examine_apply invoker runtime .startup (Invocation.startupTime runtime)
      state
    set answer := (invoker (Purpose.startup.args runtime) state.invoker).1
    rw [collectStartups_succ]
    cases htime : answer >>= Invocation.startupTime runtime with
    | error e =>
      rw [htime] at hfirst
      rw [Session.bind_of_apply_error hfirst]
      have hbreaks : BreaksOff (repetitions + 1) (startupTimeOf runtime) ([] ++ [answer]) e :=
        .intro (Nat.succ_pos repetitions) rfl htime
      exact ⟨[answer], rfl, .inr ⟨e, hbreaks, rfl⟩⟩
    | ok time =>
      rw [htime] at hfirst
      rw [Session.bind_of_apply_ok hfirst]
      obtain ⟨answers, hevents, hcases⟩ := ih (times ++ [time])
        ⟨(invoker (Purpose.startup.args runtime) state.invoker).2, state.table⟩
      refine ⟨answer :: answers, congrArg (_ :: ·) hevents, ?_⟩
      rcases hcases with ⟨new, ⟨hlength, hnew⟩, hresult⟩ | ⟨e, hbreaks, hresult⟩
      · refine .inl ⟨time :: new, ⟨congrArg Nat.succ hlength, ?_⟩, ?_⟩
        · exact mapM_cons_eq_ok_iff.mpr ⟨time, new, htime, hnew, rfl⟩
        · rw [hresult, List.append_assoc]
          rfl
      · exact .inr ⟨e, hbreaks.cons htime, hresult⟩

variable {plan : Plan} {capabilities : Capabilities}

/-- The log of the run of an accepted plan. -/
theorem runLog_of_run (invoker : Invoker σ) (capabilities : Capabilities) (settings : Settings)
    (hplan : plan.Accepted) (s : σ) :
    let outcome := run plan invoker capabilities settings (plan.start s)
    RunLog plan capabilities settings outcome.result outcome.events := by
  have htable := (calibrate_log invoker plan.runtime settings (plan.start s)).1
  obtain ⟨answers, hevents, hcases⟩ :=
    collectStartups_cases invoker plan.runtime settings.repetitions [] (plan.start s)
  have hcalibrate : calibrate invoker plan.runtime settings (plan.start s) = _ :=
    Session.bind_pure_apply _ settings.statistic.reduce _
  rcases hcases with ⟨times, hanswers, hresult⟩ | ⟨e, hanswers, hresult⟩
  · rw [hresult, hevents] at hcalibrate
    rw [hcalibrate] at htable
    generalize (collectStartups invoker plan.runtime settings.repetitions [] (plan.start s)).state =
      state at hcalibrate htable
    obtain ⟨s', table⟩ := state
    obtain rfl : table = plan.iterationTable := htable
    have hready := hplan.ready capabilities
    let b : Bench σ :=
      ⟨plan, invoker, capabilities, settings, settings.statistic.reduce ([] ++ times)⟩
    have htasks := (b.course_of_ready hready {} s').tasksLog hready.count_le
    rw [run_of_calibrated hplan.wellFormed hcalibrate]
    exact .calibrated hanswers rfl htasks
  · rw [hresult, hevents] at hcalibrate
    rw [run, Session.bind_of_apply_error hcalibrate]
    exact .uncalibrated hanswers

end Run

end RoutineTiming
