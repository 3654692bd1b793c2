import RoutineTiming.Proofs.Measuring.Retries

/-!
# Invokers that remember nothing

The answers of a stateless invoker depend on the arguments alone. The rounds of a cell can then be
made once more, from any state of the invoker and from any of the counts that they came to before,
and they end at the same count with the same measurements.

## Main definitions

* `Invoker.Stateless` : the invokers whose answers depend on the arguments alone.
* `Rounds.restart` : the rounds of a cell from a later one on.
* `Plan.judge` : a result with the verdict of a plan.

## Main results

* `Rounds.Reached.restart`, `Bench.Finished.ends_restart` : rounds that are made once more.
* `Bench.Course.replay` : a course through cells that were measured before.
* `calibrate_result_eq` : a calibration that is made once more.
* `Bench.run_replay` : a run through cells that were measured before.
-/

namespace RoutineTiming

section Invoker

variable {σ : Type}

/-- The answers depend on the arguments alone. -/
def Invoker.Stateless (invoker : Invoker σ) : Prop :=
  ∀ args s s', (invoker args s).1 = (invoker args s').1

/-- A stateless invoker gives the same answers from any state on. -/
theorem Invoker.Stateless.replies_eq {invoker : Invoker σ} (h : invoker.Stateless)
    (calls : List (List String)) (s s' : σ) :
    invoker.replies calls s = invoker.replies calls s' := by
  induction calls generalizing s s' with
  | nil => rfl
  | cons args calls ih => rw [replies, replies, h args s s', ih]

end Invoker

/-! ### Rounds that are made once more -/

namespace Rounds

variable {σ : Type} {r : Rounds σ}

/-- The rounds of a cell from a later one on, from any state of the invoker. -/
def restart (r : Rounds σ) (i : Nat) (s : σ) : Rounds σ :=
  { r with cell := { r.cell with count := r.iterations i }, start := s }

theorem iterations_restart (i : Nat) (s : σ) (k : Nat) :
    (r.restart i s).iterations k = r.iterations (i + k) :=
  doubledTimes_doubledTimes r.cell.count i k

theorem result_restart (i : Nat) (s : σ) (k : Nat) (measurements : List Measurement) :
    (r.restart i s).result k measurements = r.result (i + k) measurements := by
  rw [result, result, iterations_restart]
  rfl

/-- The answers in a later round are those that it was given before. -/
theorem readings_restart (h : r.invoker.Stateless) (i : Nat) (s : σ) (k : Nat) :
    (r.restart i s).readings k = r.readings (i + k) := by
  have hcalls : (r.restart i s).calls k = r.calls (i + k) := by
    rw [calls, calls, purpose, purpose, iterations_restart]
    rfl
  have hanswers : (r.restart i s).answers k = r.answers (i + k) := by
    rw [answers, answers, hcalls]
    exact h.replies_eq _ _ _
  rw [readings, readings, hanswers]
  rfl

theorem swamped_restart_iff (h : r.invoker.Stateless) (i : Nat) (s : σ) (k : Nat) :
    (r.restart i s).Swamped k ↔ r.Swamped (i + k) := by
  rw [Swamped, Swamped, readings_restart h]
  rfl

/-- The rounds from a later one on come to the same last round. -/
theorem Reached.restart {m i : Nat} (hreached : r.Reached m) (h : r.invoker.Stateless) (hi : i ≤ m)
    (s : σ) : (r.restart i s).Reached (m - i) := by
  intro k hk
  obtain ⟨hswamped, hlast⟩ := hreached (i + k) (by omega)
  have hmax := hreached.le_maxDoublings
  refine ⟨(swamped_restart_iff h i s k).mpr hswamped, ?_⟩
  rintro (hlimit | hgrows)
  · have hlimit : k = r.settings.maxDoublings := hlimit
    omega
  · rw [iterations_restart, iterations_restart] at hgrows
    exact hlast (.inr hgrows)

end Rounds

/-- The result of a routine at a size with the verdict of a plan on its value. -/
def Plan.judge (plan : Plan) (key : String × Nat) (measured : CellResult) : CellResult :=
  { measured with verified := (plan.expectedTable.check key.1 key.2 measured.value).verified }

namespace Bench

variable {σ : Type} {b b' : Bench σ}

/-- The last round of a measured cell ends once more as it did before. -/
theorem Finished.ends_restart (f : b.Finished) (h : b.invoker.Stateless) {i : Nat} (hi : i ≤ f.last)
    (s : σ) : (f.rounds.restart i s).Ends (f.last - i) (.ok f.measured) := by
  have hreadings : (f.rounds.restart i s).readings (f.last - i) = .ok f.measurements := by
    rw [Rounds.readings_restart h, Nat.add_sub_of_le hi]
    exact f.readings_eq
  have hresult := Rounds.result_restart (r := f.rounds) i s (f.last - i) f.measurements
  rw [Nat.add_sub_of_le hi] at hresult
  rw [measured, ← hresult]
  exact .accepted hreadings f.clear

/-- The matrix after a history, by what was measured in it. -/
theorem foldl_enter_eq (steps : List b.Step) (matrix : ResultsMatrix) :
    steps.foldl Step.enter matrix =
      ((finishedOf steps).map fun f => (f.key, b.plan.judge f.key f.measured)).foldl
        (fun matrix e => matrix.insert e.1.1 e.1.2 e.2) matrix := by
  rw [foldl_enter, ResultsMatrix.enterAll, List.foldl_map, List.foldl_map]
  rfl

/-- Cells that were measured before are all measured in any course through them from counts that
they came to before, with the same results. -/
theorem Course.replay (h : b.invoker.Stateless) (hrounds : b'.rounds = b.rounds)
    {finished : List b.Finished} {again : b.Finished → Nat} (hagain : ∀ f, again f ≤ f.last)
    {tasks : List RunTask}
    (htasks : tasks.filterMap RunTask.cell? =
      finished.map fun f => (f.rounds.restart (again f) f.start).cell)
    {matrix : ResultsMatrix} {table table' : IterationTable}
    {result : Except BenchError ResultsMatrix} {events : List Event}
    (hcourse : b'.Course tasks matrix table result table' events) :
    ∃ steps : List b'.Step, tasks = steps.map Step.task ∧
      ((finishedOf steps).map fun f => (f.key, f.last, f.measured)) =
        (finished.map fun f => (f.key, f.last - again f, f.measured)) ∧
      result = .ok (steps.foldl Step.enter matrix) ∧
      table' = steps.foldl Step.write table ∧ events = steps.flatMap Step.events := by
  have hrestart (f : b.Finished) (s : σ) :
      b'.rounds (f.rounds.restart (again f) f.start).cell s = f.rounds.restart (again f) s := by
    rw [hrounds]
    rfl
  have hreached (f : b.Finished) (s : σ) :
      (b'.rounds (f.rounds.restart (again f) f.start).cell s).Reached (f.last - again f) := by
    rw [hrestart]
    exact Rounds.Reached.restart (r := f.rounds) f.reached h (hagain f) s
  have hends (f : b.Finished) (s : σ) :
      (b'.rounds (f.rounds.restart (again f) f.start).cell s).Ends (f.last - again f)
        (.ok f.measured) := by
    rw [hrestart]
    exact f.ends_restart h (hagain f) s
  cases hcourse with
  | finished steps hsteps =>
    refine ⟨steps, hsteps, ?_, rfl, rfl, rfl⟩
    rw [hsteps, ← map_cell_finishedOf, ← List.forall₂_eq_eq_eq, List.forall₂_map_left_iff,
      List.forall₂_map_right_iff] at htasks
    rw [← List.forall₂_eq_eq_eq, List.forall₂_map_left_iff, List.forall₂_map_right_iff]
    refine htasks.imp fun f' f hcell => ?_
    have hreached' : (b'.rounds f'.cell f'.start).Reached f'.last := f'.reached
    have hends' : (b'.rounds f'.cell f'.start).Ends f'.last (.ok f'.measured) := f'.ends
    rw [hcell] at hreached' hends'
    obtain ⟨hlast, hmeasured⟩ :=
      hreached'.unique hends' (hreached f f'.start) (hends f f'.start)
    have hkey : f'.key = f.key := by rw [Finished.key, hcell]; rfl
    rw [hkey, hlast, Except.ok.inj hmeasured]
  | stopped steps cell rest start last e hsteps hreached' hends' =>
    -- The cell was measured before, so its last round cannot end with an error.
    have hcell : cell ∈ tasks.filterMap RunTask.cell? := by
      rw [hsteps, List.filterMap_append]
      exact List.mem_append_right _ List.mem_cons_self
    rw [htasks] at hcell
    obtain ⟨f, -, rfl⟩ := List.mem_map.mp hcell
    cases (hreached'.unique hends' (hreached f start) (hends f start)).2

end Bench

/-! ### Runs that are made once more -/

section Run

variable {σ : Type} {invoker : Invoker σ}

theorem collectStartups_result_eq (h : invoker.Stateless) (runtime : Runtime) (repetitions : Nat)
    (times : List Binary64) (state state' : SessionState σ) :
    (collectStartups invoker runtime repetitions times state).result =
      (collectStartups invoker runtime repetitions times state').result := by
  induction repetitions generalizing times state state' with
  | zero => rfl
  | succ repetitions ih =>
    have hlaunch := Session.examine_apply invoker runtime .startup (Invocation.startupTime runtime)
    have hanswer := h (Purpose.startup.args runtime) state.invoker state'.invoker
    have hfirst := hlaunch state
    have hsecond := hlaunch state'
    rw [hanswer] at hfirst
    rw [collectStartups_succ]
    cases htime : (invoker (Purpose.startup.args runtime) state'.invoker).1 >>=
        Invocation.startupTime runtime with
    | error e =>
      rw [htime] at hfirst hsecond
      rw [Session.bind_of_apply_error hfirst, Session.bind_of_apply_error hsecond]
    | ok time =>
      rw [htime] at hfirst hsecond
      rw [Session.bind_of_apply_ok hfirst, Session.bind_of_apply_ok hsecond]
      exact ih _ _ _

/-- A stateless invoker is calibrated alike from any state. -/
theorem calibrate_result_eq (h : invoker.Stateless) (runtime : Runtime) (settings : Settings)
    (state state' : SessionState σ) :
    (calibrate invoker runtime settings state).result =
      (calibrate invoker runtime settings state').result := by
  rw [calibrate, Session.bind_pure_apply, Session.bind_pure_apply]
  exact congrArg (Except.map settings.statistic.reduce)
    (collectStartups_result_eq h runtime settings.repetitions [] state state')

/-- A run through cells that were measured before finishes with the same results, if it starts with
counts that they came to before. -/
theorem Bench.run_replay (b b' : Bench σ) (h : b.invoker.Stateless)
    (hrounds : b'.rounds = b.rounds) (hplan : b'.plan.WellFormed) {state : SessionState σ}
    (hcalibrate : (calibrate b'.invoker b'.plan.runtime b'.settings state).result =
      .ok b'.initTime)
    {finished : List b.Finished} {again : b.Finished → Nat} (hagain : ∀ f, again f ≤ f.last)
    {tasks : List RunTask} (hready : Ready tasks state.table)
    (hsame : tasks.foldlM b'.perform {} =
      (b'.plan.tasks b'.capabilities).foldlM b'.perform {})
    (htasks : tasks.filterMap RunTask.cell? =
      finished.map fun f => (f.rounds.restart (again f) f.start).cell)
    {outcome : Outcome σ RunReport}
    (hrun : run b'.plan b'.invoker b'.capabilities b'.settings state = outcome) :
    ∃ (answers : List (Except BenchError Invocation)) (steps : List b'.Step),
      answers.length = b'.settings.repetitions ∧ tasks = steps.map Step.task ∧
      ((finishedOf steps).map fun f => (f.key, f.last, f.measured)) =
        (finished.map fun f => (f.key, f.last - again f, f.measured)) ∧
      outcome.result = .ok { initTime := b'.initTime, matrix := steps.foldl Step.enter {} } ∧
      outcome.state.table = steps.foldl Step.write state.table ∧
      outcome.events = startupLog b'.plan.runtime answers ++
        .noticed (.calibrated b'.initTime) :: steps.flatMap Step.events := by
  subst hrun
  have hlog := calibrate_log b'.invoker b'.plan.runtime b'.settings state
  rcases houtcome : calibrate b'.invoker b'.plan.runtime b'.settings state with
    ⟨result, ⟨s, table⟩, events⟩
  rw [houtcome] at hlog hcalibrate
  obtain ⟨rfl, answers, rfl, -, hlength⟩ := hlog
  obtain rfl : result = .ok b'.initTime := hcalibrate
  rw [run_of_calibrated hplan houtcome]
  have hcourse := b'.course_of_ready hready {} s
  rw [hsame] at hcourse
  obtain ⟨steps, hsteps, hmap, hresult, htable, hevents⟩ :=
    hcourse.replay h hrounds hagain htasks
  refine ⟨answers, steps, hlength _ rfl, hsteps, hmap, ?_, htable, ?_⟩
  · exact congrArg (Except.map _) hresult
  · exact congrArg (fun events => _ ++ _ :: events) hevents

end Run

end RoutineTiming
