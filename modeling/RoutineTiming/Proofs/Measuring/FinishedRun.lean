import RoutineTiming.Proofs.DoubledTable
import RoutineTiming.Proofs.EnteredMatrix
import RoutineTiming.Proofs.Measuring.History

/-!
# What a finished run leaves behind

The history of a finished run has a step for each task, and the measured cells among the steps are
the cells of the plan. The matrix, the table of iteration counts, the answers that belong to a cell
and the notices are all read off these cells.

## Main definitions

* `Bench.doublings` : how often the counts of the measured cells were doubled.
* `Event.answerTo?`, `Outcome.lastAnswer?` : the answers that belong to a routine at a size.
* `mismatchesOf` : the mismatches among events.

## Main results

* `Bench.foldl_enter` : the matrix after a history.
* `Bench.foldl_write` : the table of iteration counts after a history.
* `Bench.Finished.getLast?_answerTo?` : the last answer that belongs to a measured cell.
* `Bench.answerTo?_steps`, `Bench.mismatchesOf_steps` : the answers and mismatches in a history.
* `RunCourse.exists_steps` : a finished run has a history.
-/

namespace RoutineTiming

namespace Bench

variable {σ : Type} {b : Bench σ}

/-! ### The matrix -/

theorem foldl_enter (steps : List b.Step) (matrix : ResultsMatrix) :
    steps.foldl Step.enter matrix =
      matrix.enterAll ((finishedOf steps).map fun f => (f.cell, f.result)) := by
  induction steps generalizing matrix with
  | nil => rfl
  | cons step steps ih =>
    rw [List.foldl_cons, ih]
    cases step <;> rfl

/-! ### The table of iteration counts -/

/-- The cells of a history, each with the number of times that its count was doubled. -/
def doublings (steps : List b.Step) : List ((String × Nat) × Nat) :=
  (finishedOf steps).map fun f => (f.key, f.last)

theorem foldl_write (steps : List b.Step) (table : IterationTable) :
    steps.foldl Step.write table = table.doubleAll (doublings steps) := by
  induction steps generalizing table with
  | nil => rfl
  | cons step steps ih =>
    rw [List.foldl_cons, ih]
    cases step <;> rfl

theorem map_fst_doublings (steps : List b.Step) :
    (doublings steps).map Prod.fst =
      ((steps.map Step.task).filterMap RunTask.cell?).map Cell.key := by
  rw [← map_cell_finishedOf, doublings, List.map_map, List.map_map]
  rfl

end Bench

/-! ### Answers -/

/-- The routine and the size that a launch measures. -/
def Purpose.key? : Purpose → Option (String × Nat)
  | .measurement routine size _ => some (routine, size)
  | _ => none

/-- The answer of an event that measures a routine at a size. -/
def Event.answerTo? (key : String × Nat) : Event → Option (Except BenchError Invocation)
  | .launched purpose _ answer => if purpose.key? = some key then some answer else none
  | .noticed _ => none

/-- The answer to the last launch of a session that measured a routine at a size. -/
def Outcome.lastAnswer? {σ α : Type} (outcome : Outcome σ α) (routine : String) (size : Nat) :
    Option (Except BenchError Invocation) :=
  (outcome.events.filterMap (Event.answerTo? (routine, size))).getLast?

theorem answerTo?_startupLog (runtime : Runtime) (answers : List (Except BenchError Invocation))
    (key : String × Nat) : (startupLog runtime answers).filterMap (Event.answerTo? key) = [] := by
  refine List.filterMap_eq_nil_iff.mpr fun event hevent => ?_
  obtain ⟨answer, -, rfl⟩ := List.mem_map.mp hevent
  rfl

/-- The line of a text that holds the value of a routine. -/
def valueLine? (stdout : String) : Option String :=
  ((linesOf stdout).reverse[1]?).map dropReturns

/-- What a measured routine prints has a value line. -/
theorem valueLine?_of_parseMeasurement {routine stdout : String} {output : RoutineOutput}
    (h : RoutineOutput.parseMeasurement routine stdout = .ok output) :
    valueLine? stdout = some output.value := by
  simp only [RoutineOutput.parseMeasurement] at h
  split at h
  · cases h
  · next hcount =>
    rw [← List.length_reverse] at hcount
    rw [RoutineOutput.parse] at h
    rw [valueLine?]
    generalize (linesOf stdout).reverse = lines at h hcount
    rcases lines with _ | ⟨timing, _ | ⟨value, earlier⟩⟩
    · exact absurd (Nat.zero_lt_succ 1) hcount
    · exact absurd (Nat.lt_succ_self 1) hcount
    · simp only [RoutineOutput.ofLines] at h
      split at h
      · cases h
      · cases h
        rfl

/-- A measurement has the value that its invocation printed. -/
theorem exists_valueLine?_of_measurementOf {routine : String}
    {answer : Except BenchError Invocation} {m : Measurement}
    (h : measurementOf routine answer = .ok m) :
    ∃ invocation, answer = .ok invocation ∧ valueLine? invocation.stdout = some m.value := by
  obtain ⟨invocation, rfl, hm⟩ := bind_eq_ok_iff.mp h
  obtain ⟨_, -, hm⟩ := bind_eq_ok_iff.mp hm
  obtain ⟨output, houtput, hm⟩ := bind_eq_ok_iff.mp hm
  cases hm
  exact ⟨invocation, rfl, valueLine?_of_parseMeasurement houtput⟩

namespace Bench.Finished

variable {σ : Type} {b : Bench σ} (f : b.Finished)

/-- All launches for a measured cell belong to its routine and size. -/
theorem answerTo?_events :
    f.events.filterMap (Event.answerTo? f.key) = f.events.filterMap Event.answer? := by
  refine List.filterMap_congr fun event hevent => ?_
  rcases List.mem_append.mp hevent with hevent | hevent
  · rcases Rounds.mem_events hevent with ⟨j, answer, rfl⟩ | ⟨line, rfl⟩ | ⟨j, rawReal, rfl⟩
    · exact if_pos rfl
    · rfl
    · rfl
  · obtain ⟨notice, -, rfl⟩ := List.mem_map.mp hevent
    rfl

theorem answerTo?_events_eq_nil {key : String × Nat} (hne : f.key ≠ key) :
    f.events.filterMap (Event.answerTo? key) = [] := by
  refine List.filterMap_eq_nil_iff.mpr fun event hevent => ?_
  rcases List.mem_append.mp hevent with hevent | hevent
  · rcases Rounds.mem_events hevent with ⟨j, answer, rfl⟩ | ⟨line, rfl⟩ | ⟨j, rawReal, rfl⟩
    · exact if_neg fun heq => hne (Option.some.inj heq)
    · rfl
    · rfl
  · obtain ⟨notice, -, rfl⟩ := List.mem_map.mp hevent
    rfl

/-- The answers for a measured cell end with those of its last round. -/
theorem answers_events :
    ∃ front, f.events.filterMap Event.answer? = front ++ f.rounds.answers f.last := by
  have hreadings : f.rounds.readings f.last = .ok f.measurements := f.readings_eq
  rw [events, Rounds.events, List.filterMap_append, List.filterMap_append,
    filterMap_answer?_noticed, List.append_nil]
  exact ⟨_, congrArg _ (launchLog_answers hreadings)⟩

/-- The value of a measured cell is the one that was printed last for it. -/
theorem getLast?_answerTo? (hrepetitions : 1 ≤ b.settings.repetitions) :
    ∃ invocation, (f.events.filterMap (Event.answerTo? f.key)).getLast? = some (.ok invocation) ∧
      valueLine? invocation.stdout = some f.measured.value := by
  obtain ⟨front, hanswers⟩ := f.answers_events
  have hreadings : f.rounds.readings f.last = .ok f.measurements := f.readings_eq
  have hlength : (f.rounds.answers f.last).length = b.settings.repetitions :=
    Rounds.length_answers f.last
  have hlast := congrArg List.getLast? (mapM_eq_ok_iff.mp hreadings)
  rw [List.getLast?_map, List.getLast?_map] at hlast
  rw [f.answerTo?_events, hanswers, List.getLast?_append]
  rcases hanswer : (f.rounds.answers f.last).getLast? with _ | answer
  · rw [List.getLast?_eq_none_iff.mp hanswer] at hlength
    simp only [List.length_nil] at hlength
    omega
  · rw [hanswer] at hlast
    rcases hm : f.measurements.getLast? with _ | m
    · rw [hm] at hlast
      cases hlast
    · rw [hm, Option.map_some, Option.map_some, Option.some.injEq] at hlast
      obtain ⟨invocation, rfl, hvalue⟩ := exists_valueLine?_of_measurementOf hlast
      refine ⟨invocation, rfl, ?_⟩
      have hmeasured : f.measured.value = (f.measurements.getLast?.map Measurement.value).getD "" :=
        rfl
      rw [hvalue, hmeasured, hm]
      rfl

end Bench.Finished

/-! ### Mismatches -/

/-- The notice is a mismatch. -/
def Notice.isMismatch : Notice → Bool
  | .mismatch .. => true
  | _ => false

/-- The mismatches among events, in order. -/
def mismatchesOf (events : List Event) : List Notice :=
  (events.filterMap Event.notice?).filter Notice.isMismatch

theorem mismatchesOf_append (events events' : List Event) :
    mismatchesOf (events ++ events') = mismatchesOf events ++ mismatchesOf events' := by
  rw [mismatchesOf, List.filterMap_append, List.filter_append]
  rfl

theorem notices_startupLog (runtime : Runtime) (answers : List (Except BenchError Invocation)) :
    (startupLog runtime answers).filterMap Event.notice? = [] := by
  refine List.filterMap_eq_nil_iff.mpr fun event hevent => ?_
  obtain ⟨answer, -, rfl⟩ := List.mem_map.mp hevent
  rfl

theorem mismatchesOf_startupLog (runtime : Runtime)
    (answers : List (Except BenchError Invocation)) :
    mismatchesOf (startupLog runtime answers) = [] := by
  rw [mismatchesOf, notices_startupLog, List.filter_nil]

theorem Rounds.mismatchesOf_events {σ : Type} (r : Rounds σ) (k : Nat) :
    mismatchesOf (r.events k) = [] := by
  refine List.filter_eq_nil_iff.mpr fun notice hnotice => ?_
  obtain ⟨event, hevent, hnotice⟩ := List.mem_filterMap.mp hnotice
  rcases mem_events hevent with ⟨j, answer, rfl⟩ | ⟨line, rfl⟩ | ⟨j, rawReal, rfl⟩
  · cases hnotice
  · cases hnotice
    exact Bool.false_ne_true
  · cases hnotice
    exact Bool.false_ne_true

namespace Bench

variable {σ : Type} {b : Bench σ}

/-- The mismatch of a measured cell, if its value is not the expected one. -/
def Finished.mismatches (f : b.Finished) : List Notice :=
  f.verdict.notices f.cell.routine f.cell.size f.measured.value

theorem Finished.mismatchesOf_events (f : b.Finished) :
    mismatchesOf f.events = f.mismatches := by
  have hnotices : mismatchesOf (f.notices.map .noticed) = f.mismatches := by
    rw [mismatchesOf, filterMap_notice?_noticed, notices, mismatches]
    cases f.verdict <;> rfl
  rw [events, mismatchesOf_append, hnotices, Rounds.mismatchesOf_events, List.nil_append]

theorem mismatchesOf_steps (steps : List b.Step) :
    mismatchesOf (steps.flatMap Step.events) = (finishedOf steps).flatMap Finished.mismatches := by
  rw [read_steps mismatchesOf_append fun _ => rfl]
  exact List.flatMap_congr fun f _ => f.mismatchesOf_events

/-- A cell has a mismatch exactly if it is not verified. -/
theorem Finished.mem_mismatches_iff {f : b.Finished} {notice : Notice} :
    notice ∈ f.mismatches ↔ f.result.verified = some false ∧
      ∃ expected, b.plan.expectedTable.get? f.cell.routine f.cell.size = some expected ∧
        notice = .mismatch f.cell.routine f.cell.size f.result.value expected := by
  have hverified : f.result.verified = f.verdict.verified := rfl
  have hvalue : f.result.value = f.measured.value := rfl
  rw [hverified, hvalue, mismatches, verdict, ExpectedTable.check]
  cases b.plan.expectedTable.get? f.cell.routine f.cell.size with
  | none => simp [Verdict.verified, Verdict.notices]
  | some expected =>
    by_cases heq : trim expected = trim f.measured.value
    · simp [heq, Verdict.verified, Verdict.notices]
    · simp [heq, Verdict.verified, Verdict.notices]

/-! ### Histories of cells with different keys -/

/-- The answers that belong to a cell are those of its own step. -/
theorem answerTo?_steps {steps : List b.Step} (hkeys : ((finishedOf steps).map Finished.key).Nodup)
    {f : b.Finished} (hf : f ∈ finishedOf steps) :
    (steps.flatMap Step.events).filterMap (Event.answerTo? f.key) =
      f.events.filterMap (Event.answerTo? f.key) := by
  obtain ⟨before, after, hsplit⟩ := List.append_of_mem hf
  rw [hsplit, List.map_append, List.map_cons, List.nodup_middle, ← List.map_append,
    List.nodup_cons] at hkeys
  have hothers {others : List b.Finished} (hsub : others ⊆ before ++ after) :
      (others.flatMap fun g => g.events.filterMap (Event.answerTo? f.key)) = [] := by
    refine List.flatMap_eq_nil_iff.mpr fun g hg => g.answerTo?_events_eq_nil fun heq => ?_
    exact hkeys.1 (heq ▸ List.mem_map_of_mem (hsub hg))
  rw [read_steps (fun _ _ => List.filterMap_append) fun _ => rfl, hsplit, List.flatMap_append,
    List.flatMap_cons, hothers (List.subset_append_left ..), hothers (List.subset_append_right ..),
    List.nil_append, List.append_nil]

end Bench

/-- The history of a finished run. -/
theorem RunCourse.exists_steps {σ : Type} {plan : Plan} {invoker : Invoker σ}
    {capabilities : Capabilities} {settings : Settings} {table table' : IterationTable}
    {report : RunReport} {events : List Event}
    (h : RunCourse plan invoker capabilities settings table (.ok report) table' events) :
    ∃ (answers : List (Except BenchError Invocation))
      (steps : List (Bench.Step ⟨plan, invoker, capabilities, settings, report.initTime⟩)),
      plan.tasks capabilities = steps.map Bench.Step.task ∧
      report.matrix = steps.foldl Bench.Step.enter {} ∧
      table' = steps.foldl Bench.Step.write table ∧
      events = startupLog plan.runtime answers ++
        .noticed (.calibrated report.initTime) :: steps.flatMap Bench.Step.events := by
  generalize hresult : Except.ok report = result at h
  cases h with
  | uncalibrated => cases hresult
  | @calibrated answers initTime _ result table' events hcourse =>
    cases hcourse with
    | stopped => cases hresult
    | finished steps htasks =>
      cases hresult
      exact ⟨answers, steps, htasks, rfl, rfl, rfl⟩

end RoutineTiming
