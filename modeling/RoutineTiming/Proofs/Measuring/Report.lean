import RoutineTiming.Proofs.Measuring.FailStop
import RoutineTiming.Proofs.Measuring.FinishedRun

/-!
# What a finished run reports

The matrix of a finished run has a row for each routine that has what it requires, and an entry for
each size. What an entry says agrees with the table of iteration counts, with the output of the last
launch for it, and with the expected values of the plan, and a mismatch is noticed for just those
entries that are not verified. A mismatch does not end a run.

## Main definitions

* `Reported` : what the entry of a routine at a size says.

## Main results

* `run_report` : the report of the run of an accepted plan.
-/

namespace RoutineTiming

/-- What the entry of a routine at a place among the sizes says. -/
structure Reported {σ : Type} (plan : Plan) (outcome : Outcome σ RunReport) (routine : Routine)
    (place size : Nat) (result : CellResult) : Prop where
  iterations_eq : outcome.state.table.get? routine.name size = some result.iterations
  value_eq : ∃ invocation, outcome.lastAnswer? routine.name size = some (.ok invocation) ∧
    valueLine? invocation.stdout = some result.value
  verified_eq_none_iff : result.verified = none ↔ routine.family = none
  verified_eq_some_iff : ∀ agrees, result.verified = some agrees ↔
    ∃ expected, plan.expectedValue? routine place = some expected ∧
      agrees = decide (trim result.value = trim expected)

/-- The first iteration counts of an accepted plan are numbers of 64 bits. -/
theorem Plan.Accepted.inWords {plan : Plan} (h : plan.Accepted) : plan.iterationTable.InWords := by
  intro routine size count hcount
  obtain ⟨r, hr, hcell⟩ := h.wellFormed.iterationTable_get?.mp hcount
  obtain ⟨place, -, hiterations⟩ := exists_place_of_mem_cellsOf hcell
  exact h.iterations_le r hr count (List.mem_of_getElem? hiterations)

namespace Bench

variable {σ : Type} {b : Bench σ} {steps : List b.Step}

/-! ### Histories of all tasks of a plan -/

theorem map_key_finishedOf (htasks : b.plan.tasks b.capabilities = steps.map Step.task) :
    (finishedOf steps).map Finished.key = (b.plan.cells b.capabilities).map Cell.key := by
  rw [← b.plan.filterMap_cell?_tasks, htasks, ← map_cell_finishedOf, List.map_map]
  rfl

theorem nodup_key_finishedOf (hplan : b.plan.WellFormed)
    (htasks : b.plan.tasks b.capabilities = steps.map Step.task) :
    ((finishedOf steps).map Finished.key).Nodup := by
  rw [map_key_finishedOf htasks]
  exact List.pairwise_map.mpr (hplan.cells_pairwise_ne_key b.capabilities)

theorem cell_mem_of_mem_finishedOf (htasks : b.plan.tasks b.capabilities = steps.map Step.task)
    {f : b.Finished} (hf : f ∈ finishedOf steps) : f.cell ∈ b.plan.cells b.capabilities := by
  rw [← b.plan.filterMap_cell?_tasks, htasks, ← map_cell_finishedOf]
  exact List.mem_map_of_mem hf

variable (b) in
/-- A routine that has what it requires was measured at each size. -/
theorem exists_mem_finishedOf (hplan : b.plan.WellFormed)
    (htasks : b.plan.tasks b.capabilities = steps.map Step.task) {routine : Routine}
    (hr : routine ∈ b.plan.routines) (hallows : b.capabilities.allows routine = true) {size : Nat}
    (hsize : size ∈ b.plan.sizes) : ∃ f ∈ finishedOf steps, f.key = (routine.name, size) := by
  obtain ⟨cell, hcell, hkey⟩ := hplan.exists_mem_cells hr hallows hsize
  have hmem : (routine.name, size) ∈ (finishedOf steps).map Finished.key := by
    rw [map_key_finishedOf htasks, ← hkey]
    exact List.mem_map_of_mem hcell
  exact List.mem_map.mp hmem

/-- A measured cell is that of a routine that has what it requires, at one of the sizes. -/
theorem exists_routine_of_mem_finishedOf
    (htasks : b.plan.tasks b.capabilities = steps.map Step.task) {f : b.Finished}
    (hf : f ∈ finishedOf steps) :
    ∃ routine ∈ b.plan.routines, b.capabilities.allows routine = true ∧
      ∃ place size : Nat, b.plan.sizes[place]? = some size ∧ f.key = (routine.name, size) := by
  have hcell := cell_mem_of_mem_finishedOf htasks hf
  obtain ⟨routine, hr, hallows, hcell⟩ := Plan.mem_cells_iff.mp hcell
  obtain ⟨place, hsize, -⟩ := Plan.exists_place_of_mem_cellsOf hcell
  refine ⟨routine, hr, hallows, place, f.cell.size, hsize, ?_⟩
  rw [Finished.key, Cell.key, Plan.routine_of_mem_cellsOf hcell]

/-- The matrix holds just the results of the measured cells. -/
theorem get?_foldl_enter_iff (hplan : b.plan.WellFormed)
    (htasks : b.plan.tasks b.capabilities = steps.map Step.task) {routine : String} {size : Nat}
    {result : CellResult} :
    (steps.foldl Step.enter {}).get? routine size = some result ↔
      ∃ f ∈ finishedOf steps, f.key = (routine, size) ∧ f.result = result := by
  have hnodup : (((finishedOf steps).map fun f => (f.cell, f.result)).map fun e =>
      e.1.key).Nodup := by
    rw [List.map_map]
    exact nodup_key_finishedOf hplan htasks
  rw [foldl_enter, ResultsMatrix.get?_enterAll_iff hnodup]
  constructor
  · rintro ⟨cell, hmem, hkey⟩
    obtain ⟨f, hf, heq⟩ := List.mem_map.mp hmem
    cases heq
    exact ⟨f, hf, hkey, rfl⟩
  · rintro ⟨f, hf, hkey, rfl⟩
    exact ⟨f.cell, List.mem_map_of_mem hf, hkey⟩

/-- The table has the count of the last round at each measured cell. -/
theorem get?_foldl_write_of_mem (hplan : b.plan.Accepted)
    (htasks : b.plan.tasks b.capabilities = steps.map Step.task) {f : b.Finished}
    (hf : f ∈ finishedOf steps) :
    (steps.foldl Step.write b.plan.iterationTable).get? f.key.1 f.key.2 =
      some f.result.iterations := by
  have hkeys : ((doublings steps).map Prod.fst).Nodup := by
    rw [map_fst_doublings, ← htasks, b.plan.filterMap_cell?_tasks]
    exact List.pairwise_map.mpr (hplan.wellFormed.cells_pairwise_ne_key b.capabilities)
  have hcell := cell_mem_of_mem_finishedOf htasks hf
  rw [foldl_write]
  exact IterationTable.get?_doubleAll_of_mem hplan.inWords hkeys
    (hplan.wellFormed.iterationTable_get?_of_mem_cells hcell) (List.mem_map_of_mem hf)

/-- The rows of the matrix are the routines that have what they require, in the order of the plan,
each with an entry for every size. -/
theorem rows_foldl_enter (hplan : b.plan.WellFormed)
    (htasks : b.plan.tasks b.capabilities = steps.map Step.task) :
    (steps.foldl Step.enter {}).rows.map (fun row => (row.1, row.2.keys)) =
      (b.plan.routines.filter b.capabilities.allows).map fun routine =>
        (routine.name, b.plan.sizes) := by
  have hentries : ((finishedOf steps).map fun f => (f.cell, f.result)).map Prod.fst =
      (b.plan.routines.filter b.capabilities.allows).flatMap b.plan.cellsOf := by
    rw [List.map_map]
    refine (map_cell_finishedOf steps).trans ?_
    rw [← htasks, b.plan.filterMap_cell?_tasks]
    rfl
  rw [foldl_enter, ResultsMatrix.rows_enterAll hplan List.filter_sublist
    (fun _ _ => List.not_mem_nil) hentries]
  rfl

/-- Whether a measured cell is verified depends on what the plan expects at its place. -/
theorem verified_eq_some_iff (hplan : b.plan.WellFormed) {f : b.Finished} {routine : Routine}
    (hr : routine ∈ b.plan.routines) {place size : Nat}
    (hsize : b.plan.sizes[place]? = some size) (hkey : f.key = (routine.name, size))
    (agrees : Bool) :
    f.result.verified = some agrees ↔
      ∃ expected, b.plan.expectedValue? routine place = some expected ∧
        agrees = decide (trim f.result.value = trim expected) := by
  obtain ⟨hroutine, hcellSize⟩ := Prod.mk.inj hkey
  have hverified : f.result.verified =
      (b.plan.expectedTable.check routine.name size f.result.value).verified := by
    rw [← hroutine, ← hcellSize]
    rfl
  rw [hverified, ExpectedTable.check, hplan.expectedTable_get? hr hsize]
  cases b.plan.expectedValue? routine place with
  | none => simp [Verdict.verified]
  | some expected =>
    by_cases heq : trim expected = trim f.result.value
    · simp [heq, Verdict.verified, eq_comm]
    · simp [heq, Verdict.verified, eq_comm]

/-- Just the routines without a family are not checked. -/
theorem verified_eq_none_iff (hplan : b.plan.WellFormed) {f : b.Finished} {routine : Routine}
    (hr : routine ∈ b.plan.routines) {place size : Nat}
    (hsize : b.plan.sizes[place]? = some size) (hkey : f.key = (routine.name, size)) :
    f.result.verified = none ↔ routine.family = none := by
  rw [← hplan.expectedValue?_eq_none_iff hr hsize]
  have hsome := verified_eq_some_iff hplan hr hsize hkey
  constructor
  · intro hnone
    refine Option.eq_none_iff_forall_ne_some.mpr fun expected hexpected => ?_
    have hverified := (hsome _).mpr ⟨expected, hexpected, rfl⟩
    rw [hnone] at hverified
    cases hverified
  · intro hnone
    refine Option.eq_none_iff_forall_ne_some.mpr fun agrees hagrees => ?_
    obtain ⟨expected, hexpected, -⟩ := (hsome agrees).mp hagrees
    rw [hnone] at hexpected
    cases hexpected

/-- There is just one mismatch for each cell that is not verified. -/
theorem nodup_mismatches (hplan : b.plan.WellFormed)
    (htasks : b.plan.tasks b.capabilities = steps.map Step.task) :
    ((finishedOf steps).flatMap Finished.mismatches).Nodup := by
  refine List.nodup_flatMap.mpr ⟨fun f _ => ?_, ?_⟩
  · rw [Finished.mismatches]
    cases f.verdict with
    | differs expected => exact List.nodup_singleton _
    | _ => exact List.nodup_nil
  · refine (List.pairwise_map.mp (nodup_key_finishedOf hplan htasks)).imp fun {f g} hne => ?_
    intro notice hf hg
    obtain ⟨-, expected, -, rfl⟩ := Finished.mem_mismatches_iff.mp hf
    obtain ⟨-, expected', -, heq⟩ := Finished.mem_mismatches_iff.mp hg
    cases hkey : f.key
    refine hne (Prod.ext ?_ ?_)
    · exact (Notice.mismatch.inj heq).1
    · exact (Notice.mismatch.inj heq).2.1

/-- The mismatches in a history are those of the entries that are not verified. -/
theorem mem_flatMap_mismatches_iff (hplan : b.plan.WellFormed)
    (htasks : b.plan.tasks b.capabilities = steps.map Step.task) {notice : Notice} :
    notice ∈ (finishedOf steps).flatMap Finished.mismatches ↔
      ∃ routine ∈ b.plan.routines, b.capabilities.allows routine = true ∧
        ∃ (place size : Nat) (result : CellResult) (expected : String),
          b.plan.sizes[place]? = some size ∧
          (steps.foldl Step.enter {}).get? routine.name size = some result ∧
          result.verified = some false ∧
          b.plan.expectedValue? routine place = some expected ∧
          notice = .mismatch routine.name size result.value expected := by
  rw [List.mem_flatMap]
  constructor
  · rintro ⟨f, hf, hnotice⟩
    obtain ⟨hverified, expected, hexpected, rfl⟩ := Finished.mem_mismatches_iff.mp hnotice
    obtain ⟨routine, hr, hallows, place, size, hsize, hkey⟩ :=
      exists_routine_of_mem_finishedOf htasks hf
    have hget := (get?_foldl_enter_iff hplan htasks).mpr ⟨f, hf, hkey, rfl⟩
    obtain ⟨hroutine, hcellSize⟩ := Prod.mk.inj hkey
    rw [hroutine, hcellSize] at hexpected ⊢
    rw [hplan.expectedTable_get? hr hsize] at hexpected
    exact ⟨routine, hr, hallows, place, size, f.result, expected, hsize, hget, hverified,
      hexpected, rfl⟩
  · rintro ⟨routine, hr, hallows, place, size, result, expected, hsize, hget, hverified,
      hexpected, rfl⟩
    obtain ⟨f, hf, hkey, rfl⟩ := (get?_foldl_enter_iff hplan htasks).mp hget
    refine ⟨f, hf, Finished.mem_mismatches_iff.mpr ⟨hverified, expected, ?_⟩⟩
    obtain ⟨hroutine, hcellSize⟩ := Prod.mk.inj hkey
    rw [hroutine, hcellSize, hplan.expectedTable_get? hr hsize]
    exact ⟨hexpected, rfl⟩

/-- What a history says of one of its measured cells. -/
theorem reported_of_mem_finishedOf (hplan : b.plan.Accepted)
    (htasks : b.plan.tasks b.capabilities = steps.map Step.task)
    (hrepetitions : 1 ≤ b.settings.repetitions) {outcome : Outcome σ RunReport}
    {answers : List (Except BenchError Invocation)}
    (htable : outcome.state.table = steps.foldl Step.write b.plan.iterationTable)
    (hevents : outcome.events = startupLog b.plan.runtime answers ++
      .noticed (.calibrated b.initTime) :: steps.flatMap Step.events)
    {f : b.Finished} (hf : f ∈ finishedOf steps) {routine : Routine}
    (hr : routine ∈ b.plan.routines) {place size : Nat} (hsize : b.plan.sizes[place]? = some size)
    (hkey : f.key = (routine.name, size)) :
    Reported b.plan outcome routine place size f.result := by
  have hwell := hplan.wellFormed
  refine ⟨?_, ?_, verified_eq_none_iff hwell hr hsize hkey,
    verified_eq_some_iff hwell hr hsize hkey⟩
  · have hget := get?_foldl_write_of_mem hplan htasks hf
    rw [hkey] at hget
    rw [htable]
    exact hget
  · obtain ⟨invocation, hlast, hvalue⟩ := f.getLast?_answerTo? hrepetitions
    refine ⟨invocation, ?_, hvalue⟩
    rw [Outcome.lastAnswer?, hevents, List.filterMap_append, answerTo?_startupLog,
      List.nil_append, ← hkey, ← hlast, ← answerTo?_steps (nodup_key_finishedOf hwell htasks) hf]
    rfl

end Bench

section Run

variable {σ : Type} {plan : Plan} {invoker : Invoker σ} {capabilities : Capabilities}
  {settings : Settings}

/-- The rows of a report are those of the routines that have what they require, each with all
sizes. -/
theorem rows_of_run_ok (hplan : plan.Accepted) {s : σ} {report : RunReport}
    (h : (run plan invoker capabilities settings (plan.start s)).result = .ok report) :
    report.matrix.rows.map (fun row => (row.1, row.2.keys)) =
      (plan.routines.filter capabilities.allows).map fun routine =>
        (routine.name, plan.sizes) := by
  have hcourse := run_course invoker settings capabilities hplan s
  simp only [h] at hcourse
  obtain ⟨answers, steps, htasks, hmatrix, -⟩ := hcourse.exists_steps
  rw [hmatrix]
  exact Bench.rows_foldl_enter (b := ⟨plan, invoker, capabilities, settings, report.initTime⟩)
    hplan.wellFormed htasks

/-- **The report of a finished run.** The matrix of the run of an accepted plan has the routines
that have what they require and all sizes, its entries say what was measured last, and the
mismatches are those of the entries that are not verified. If a run does not finish, then a routine
did not converge or an answer was faulty, whatever mismatches there were. -/
theorem run_report (hplan : plan.Accepted) (hrepetitions : 1 ≤ settings.repetitions) {s : σ}
    {outcome : Outcome σ RunReport}
    (h : run plan invoker capabilities settings (plan.start s) = outcome) :
    (∀ report, outcome.result = .ok report →
      report.matrix.rows.map (fun row => (row.1, row.2.keys)) =
        (plan.routines.filter capabilities.allows).map (fun routine =>
          (routine.name, plan.sizes)) ∧
      (∀ routine ∈ plan.routines, capabilities.allows routine = true →
        ∀ place size : Nat, plan.sizes[place]? = some size →
          ∃ result, report.matrix.get? routine.name size = some result ∧
            Reported plan outcome routine place size result) ∧
      (∀ notice, notice ∈ outcome.notices.filter Notice.isMismatch ↔
        ∃ routine ∈ plan.routines, capabilities.allows routine = true ∧
          ∃ (place size : Nat) (result : CellResult) (expected : String),
            plan.sizes[place]? = some size ∧
            report.matrix.get? routine.name size = some result ∧
            result.verified = some false ∧
            plan.expectedValue? routine place = some expected ∧
            notice = .mismatch routine.name size result.value expected) ∧
      (outcome.notices.filter Notice.isMismatch).Nodup) ∧
    ∀ e, outcome.result = .error e → plan.NotConverged e ∨
      ∃ (events : List Event) (purpose : Purpose) (answer : Except BenchError Invocation),
        outcome.events = events ++ [.launched purpose (purpose.args plan.runtime) answer] ∧
          Fault plan.runtime purpose answer e := by
  subst h
  have hwell := hplan.wellFormed
  refine ⟨fun report hreport => ?_, fun e he => ?_⟩
  · have hcourse := run_course invoker settings capabilities hplan s
    simp only [hreport] at hcourse
    obtain ⟨answers, steps, htasks, hmatrix, htable, hevents⟩ := hcourse.exists_steps
    let b : Bench σ := ⟨plan, invoker, capabilities, settings, report.initTime⟩
    have hmismatches : (run plan invoker capabilities settings (plan.start s)).notices.filter
        Notice.isMismatch = (Bench.finishedOf steps).flatMap Bench.Finished.mismatches := by
      show mismatchesOf (run plan invoker capabilities settings (plan.start s)).events = _
      rw [hevents, mismatchesOf_append, mismatchesOf_startupLog, List.nil_append]
      exact Bench.mismatchesOf_steps steps
    refine ⟨?_, fun routine hr hallows place size hsize => ?_, fun notice => ?_, ?_⟩
    · exact rows_of_run_ok hplan hreport
    · have hmem : size ∈ plan.sizes := List.mem_of_getElem? hsize
      obtain ⟨f, hf, hkey⟩ := b.exists_mem_finishedOf hwell htasks hr hallows hmem
      refine ⟨f.result, ?_, Bench.reported_of_mem_finishedOf hplan htasks hrepetitions htable
        hevents hf hr hsize hkey⟩
      rw [hmatrix]
      exact (Bench.get?_foldl_enter_iff hwell htasks).mpr ⟨f, hf, hkey, rfl⟩
    · rw [hmismatches, hmatrix]
      exact Bench.mem_flatMap_mismatches_iff hwell htasks
    · rw [hmismatches]
      exact Bench.nodup_mismatches hwell htasks
  · have horderly : Orderly invoker plan.runtime plan.NotConverged (plan.start s)
        (run plan invoker capabilities settings (plan.start s)) := orderly_run hwell.hasCounts
    have hstop := horderly.failStop
    rw [he] at hstop
    exact hstop.own_or_fault

/-- A run in which the second value is not the expected one. -/
theorem run_report_samplePlan :
    let outcome := run samplePlan sampleInvoker {} { repetitions := 1 } (samplePlan.start ())
    .mismatch "a" 9 "8" "9" ∈ outcome.notices ∧
    ∃ report, outcome.result = .ok report ∧
      report.matrix.rows.map (fun row => (row.1, row.2.keys)) = [("a", [8, 9])] ∧
      ∃ result, report.matrix.get? "a" 9 = some result ∧ result.verified = some false := by
  intro outcome
  have houtcome : run samplePlan sampleInvoker {} { repetitions := 1 } (samplePlan.start ()) =
      outcome := rfl
  have hresult : outcome.result.toOption.isSome = true := by decide +kernel
  have hnotice : .mismatch "a" 9 "8" "9" ∈ outcome.notices := by decide +kernel
  obtain ⟨hreport, -⟩ := run_report samplePlan_accepted (Nat.le_refl 1) houtcome
  refine ⟨hnotice, ?_⟩
  cases h : outcome.result with
  | error e =>
    rw [h] at hresult
    cases hresult
  | ok report =>
    obtain ⟨hrows, -, hmismatches, -⟩ := hreport report h
    obtain ⟨routine, -, -, place, size, result, expected, -, hget, hverified, -, heq⟩ :=
      (hmismatches _).mp (List.mem_filter.mpr ⟨hnotice, rfl⟩)
    obtain ⟨hname, hsize, -, -⟩ := Notice.mismatch.inj heq
    rw [← hname, ← hsize] at hget
    exact ⟨report, rfl, hrows, result, hget, hverified⟩

end Run

end RoutineTiming
