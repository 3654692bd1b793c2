import RoutineTiming.Proofs.Measuring.CallTrace
import RoutineTiming.Proofs.Measuring.Report

/-!
# Retries and the table of iteration counts

A round that is swamped is noticed together with the count of the round that follows it. However a
run ends, the table that it leaves has each first count doubled once for each such notice, and the
count of a measured cell, or of the one that was given up, is that of the last round made for it.

## Main definitions

* `readNotices` : what is read off the notices among events.
* `Outcome.retries`, `Outcome.measured` : the rounds noticed as swamped, and the measured cells.
* `Stopped` : how a run that ends with an error was stopped.

## Main results

* `Bench.length_retries_steps`, `Bench.measured_steps` : the retries and the measured cells in a
  history.
* `Rounds.Ends.last_launch` : the last launch for a cell that is given up.
* `run_doubles_table` : the table after the run of an accepted plan.
-/

namespace RoutineTiming

/-! ### Reading notices -/

/-- What is read off the notices among events, in order. -/
def readNotices {β : Type} (read : Notice → Option β) (events : List Event) : List β :=
  (events.filterMap Event.notice?).filterMap read

/-- The count with which a pair is measured again. -/
def Notice.retry? (key : String × Nat) : Notice → Option Nat
  | .swamped routine size _ _ iterations => if (routine, size) = key then some iterations else none
  | _ => none

/-- The measured cell with its result. -/
def Notice.measured? : Notice → Option ((String × Nat) × CellResult)
  | .measured routine size result => some ((routine, size), result)
  | _ => none

section Outcome

variable {σ α : Type}

/-- The counts with which a routine was measured again at a size. -/
def Outcome.retries (outcome : Outcome σ α) (routine : String) (size : Nat) : List Nat :=
  outcome.notices.filterMap (Notice.retry? (routine, size))

/-- The cells that were measured, in order, with their results. -/
def Outcome.measured (outcome : Outcome σ α) : List ((String × Nat) × CellResult) :=
  outcome.notices.filterMap Notice.measured?

end Outcome

section ReadNotices

variable {β : Type} {read : Notice → Option β}

theorem readNotices_append (read : Notice → Option β) (events events' : List Event) :
    readNotices read (events ++ events') = readNotices read events ++ readNotices read events' := by
  rw [readNotices, List.filterMap_append, List.filterMap_append]
  rfl

theorem readNotices_noticed (read : Notice → Option β) (notices : List Notice) :
    readNotices read (notices.map .noticed) = notices.filterMap read := by
  rw [readNotices, filterMap_notice?_noticed]

theorem readNotices_startupLog (read : Notice → Option β) (runtime : Runtime)
    (answers : List (Except BenchError Invocation)) :
    readNotices read (startupLog runtime answers) = [] := by
  rw [readNotices, notices_startupLog, List.filterMap_nil]

/-- The calibration gives no notice but the startup overhead. -/
theorem readNotices_calibrated (hread : ∀ initTime, read (.calibrated initTime) = none)
    (runtime : Runtime) (answers : List (Except BenchError Invocation)) (initTime : Binary64)
    (events : List Event) :
    readNotices read (startupLog runtime answers ++ .noticed (.calibrated initTime) :: events) =
      readNotices read events := by
  have hcons : readNotices read (.noticed (.calibrated initTime) :: events) =
      [Notice.calibrated initTime].filterMap read ++ readNotices read events :=
    readNotices_append read [.noticed (.calibrated initTime)] events
  rw [readNotices_append, readNotices_startupLog, List.nil_append, hcons, List.filterMap_cons,
    hread, List.filterMap_nil, List.nil_append]

theorem readNotices_eq_nil {events : List Event}
    (h : ∀ notice, .noticed notice ∈ events → read notice = none) :
    readNotices read events = [] := by
  refine List.filterMap_eq_nil_iff.mpr fun notice hnotice => ?_
  obtain ⟨event, hevent, heq⟩ := List.mem_filterMap.mp hnotice
  cases event with
  | launched => cases heq
  | noticed notice' =>
    cases heq
    exact h notice hevent

end ReadNotices

/-! ### The notices of the rounds of a cell -/

namespace Rounds

variable {σ : Type} {r : Rounds σ}

theorem readNotices_log {β : Type} {read : Notice → Option β}
    (hread : ∀ line, read (.diagnostic line) = none) (k : Nat) :
    readNotices read (r.log k) = [] := by
  refine readNotices_eq_nil fun notice hnotice => ?_
  rcases mem_launchLog hnotice with ⟨answer, h⟩ | ⟨line, h⟩
  · cases h
  · cases h
    exact hread line

/-- Each round before the last one is noticed as swamped, with the count of the next round. -/
theorem Reached.retries {k : Nat} (h : r.Reached k) (key : String × Nat) :
    readNotices (Notice.retry? key) (r.events k) =
      if r.cell.key = key then (List.range k).map fun j => r.iterations (j + 1) else [] := by
  have hround (j : Nat) (hj : j ∈ List.range k) :
      readNotices (Notice.retry? key) (r.log j ++ r.warning j) =
        if r.cell.key = key then [r.iterations (j + 1)] else [] := by
    obtain ⟨⟨measurements, hreadings, -⟩, -⟩ := h j (List.mem_range.mp hj)
    rw [readNotices_append, readNotices_log fun _ => rfl, List.nil_append, warning, hreadings]
    refine (readNotices_noticed (Notice.retry? key) [_]).trans ?_
    rw [List.filterMap_cons, Notice.retry?, List.filterMap_nil]
    by_cases hkey : r.cell.key = key
    · rw [if_pos hkey, if_pos (show (r.cell.routine, r.cell.size) = key from hkey)]
    · rw [if_neg hkey, if_neg (show ¬ (r.cell.routine, r.cell.size) = key from hkey)]
  have hflat (round : Nat → List Event) :
      readNotices (Notice.retry? key) ((List.range k).flatMap round) =
        (List.range k).flatMap fun j => readNotices (Notice.retry? key) (round j) := by
    simp only [readNotices, List.filterMap_flatMap]
  rw [events, readNotices_append, readNotices_log fun _ => rfl, List.append_nil, hflat,
    List.flatMap_congr hround]
  split
  · exact List.flatMap_pure_eq_map _ _
  · exact List.flatMap_eq_nil_iff.mpr fun _ _ => rfl

theorem Reached.length_retries {k : Nat} (h : r.Reached k) (key : String × Nat) :
    (readNotices (Notice.retry? key) (r.events k)).length = if r.cell.key = key then k else 0 := by
  rw [h.retries]
  split
  · rw [List.length_map, List.length_range]
  · rfl

theorem measured_events (k : Nat) : readNotices Notice.measured? (r.events k) = [] := by
  refine readNotices_eq_nil fun notice hnotice => ?_
  rcases mem_events hnotice with ⟨j, answer, h⟩ | ⟨line, h⟩ | ⟨j, rawReal, h⟩ <;> cases h <;> rfl

/-- A cell that is given up is given up after its last launch, which was made at the last count. -/
theorem Ends.last_launch {k : Nat} {e : BenchError} (h : r.Ends k (.error e)) :
    (1 ≤ r.settings.repetitions →
      ((r.log k).filterMap Event.purpose?).getLast? = some (r.purpose k)) ∧
    (e = .noConvergence r.cell.routine r.cell.size (r.iterations k) ∨
      ∃ front answer,
        r.log k = front ++ [.launched (r.purpose k) ((r.purpose k).args r.runtime) answer] ∧
          Fault r.runtime (r.purpose k) answer e) := by
  generalize hresult : (Except.error e : Except BenchError CellResult) = result at h
  cases h with
  | accepted => cases hresult
  | exhausted hswamped hlast =>
    cases hresult
    obtain ⟨measurements, hreadings, -⟩ := hswamped
    refine ⟨fun hrepetitions => ?_, .inl rfl⟩
    rw [purposes_log hreadings, List.getLast?_replicate, if_neg (Nat.ne_of_gt hrepetitions)]
  | failed hreadings =>
    cases hresult
    obtain ⟨front, answer, hlog, hanswer⟩ :=
      exists_launchLog_of_error (r.purpose k) ((r.purpose k).args r.runtime) hreadings
    have hlog : r.log k =
        front ++ [.launched (r.purpose k) ((r.purpose k).args r.runtime) answer] := hlog
    refine ⟨fun _ => ?_, .inr ⟨front, answer, hlog, measurementOf_eq_error_iff.mp hanswer⟩⟩
    rw [hlog, List.filterMap_append]
    exact List.getLast?_concat

/-- The rounds up to the last one, which ends with an error. -/
structure GivesUp (r : Rounds σ) (k : Nat) (e : BenchError) : Prop where
  reached : r.Reached k
  ends : r.Ends k (.error e)

end Rounds

/-! ### The table after a course -/

/-- What the notices of a course through some cells say about the table that it leaves: the first
cells were reached, and the count of each was doubled once for each retry. -/
structure Account (cells : List Cell) (maxDoublings : Nat) (table table' : IterationTable)
    (events : List Event) (doublings : List ((String × Nat) × Nat)) : Prop where
  keys_prefix : doublings.map Prod.fst <+: cells.map Cell.key
  le_maxDoublings : ∀ e ∈ doublings, e.2 ≤ maxDoublings
  table_eq : table' = table.doubleAll doublings
  length_retries : ∀ key,
    (readNotices (Notice.retry? key) events).length = doublingsOf key doublings
  measured : ∀ e ∈ readNotices Notice.measured? events, ∃ cell ∈ cells, ∃ k,
    (cell.key, k) ∈ doublings ∧ e.1 = cell.key ∧ e.2.iterations = doubledTimes cell.count k

namespace Account

variable {cells : List Cell} {maxDoublings : Nat} {table table' : IterationTable}
  {events : List Event} {doublings : List ((String × Nat) × Nat)}

theorem nodup_keys (h : Account cells maxDoublings table table' events doublings)
    (hcells : cells.Pairwise fun c c' => c.key ≠ c'.key) : (doublings.map Prod.fst).Nodup :=
  (List.pairwise_map.mpr hcells).sublist h.keys_prefix.sublist

/-- The count of a pair is doubled once for each of its retries. -/
theorem get?_eq (h : Account cells maxDoublings table table' events doublings)
    (hwords : table.InWords) (routine : String) (size : Nat) :
    table'.get? routine size = (table.get? routine size).map fun count =>
      doubledTimes count (readNotices (Notice.retry? (routine, size)) events).length := by
  rw [h.table_eq, IterationTable.get?_doubleAll hwords, h.length_retries]

/-- The count of a cell that was reached. -/
theorem get?_of_mem (h : Account cells maxDoublings table table' events doublings)
    (hwords : table.InWords) (hcells : cells.Pairwise fun c c' => c.key ≠ c'.key) {cell : Cell}
    (hcount : table.get? cell.routine cell.size = some cell.count) {k : Nat}
    (hmem : (cell.key, k) ∈ doublings) :
    table'.get? cell.routine cell.size = some (doubledTimes cell.count k) := by
  rw [h.table_eq]
  exact IterationTable.get?_doubleAll_of_mem hwords (h.nodup_keys hcells) hcount hmem

/-- A pair that was not reached keeps its count. -/
theorem get?_of_notMem (h : Account cells maxDoublings table table' events doublings)
    (hwords : table.InWords) {routine : String} {size : Nat}
    (hmem : (routine, size) ∉ doublings.map Prod.fst) :
    table'.get? routine size = table.get? routine size := by
  rw [h.table_eq, IterationTable.get?_doubleAll_of_notMem hwords hmem]

end Account

namespace Bench

variable {σ : Type} {b : Bench σ}

theorem doublings_le {steps : List b.Step} {e : (String × Nat) × Nat} (he : e ∈ doublings steps) :
    e.2 ≤ b.settings.maxDoublings := by
  obtain ⟨f, -, rfl⟩ := List.mem_map.mp he
  exact f.reached.le_maxDoublings

/-- A measured cell has as many retries as its count was doubled. -/
theorem Finished.length_retries (f : b.Finished) (key : String × Nat) :
    (readNotices (Notice.retry? key) f.events).length = if f.key = key then f.last else 0 := by
  have hreached : f.rounds.Reached f.last := f.reached
  have hnotices : readNotices (Notice.retry? key) (f.notices.map .noticed) = [] := by
    rw [readNotices_noticed, notices]
    cases f.verdict <;> rfl
  rw [events, readNotices_append, hnotices, List.append_nil, hreached.length_retries]
  rfl

theorem Finished.measured_events (f : b.Finished) :
    readNotices Notice.measured? f.events = [(f.key, f.result)] := by
  have hnotices : readNotices Notice.measured? (f.notices.map .noticed) = [(f.key, f.result)] := by
    rw [readNotices_noticed, notices]
    cases f.verdict <;> rfl
  rw [events, readNotices_append, hnotices, Rounds.measured_events, List.nil_append]

theorem length_retries_steps (steps : List b.Step) (key : String × Nat) :
    (readNotices (Notice.retry? key) (steps.flatMap Step.events)).length =
      doublingsOf key (doublings steps) := by
  rw [read_steps (readNotices_append _) fun _ => rfl, List.length_flatMap, doublingsOf, doublings,
    List.map_map]
  exact congrArg List.sum (List.map_congr_left fun f _ => f.length_retries key)

/-- The cells that were measured in a history, with their results. -/
theorem measured_steps (steps : List b.Step) :
    readNotices Notice.measured? (steps.flatMap Step.events) =
      (finishedOf steps).map fun f => (f.key, f.result) := by
  rw [read_steps (readNotices_append _) fun _ => rfl,
    List.flatMap_congr fun f _ => f.measured_events]
  exact List.flatMap_pure_eq_map _ _

theorem exists_of_mem_measured {steps : List b.Step} {e : (String × Nat) × CellResult}
    (he : e ∈ readNotices Notice.measured? (steps.flatMap Step.events)) :
    ∃ cell ∈ (steps.map Step.task).filterMap RunTask.cell?, ∃ k, (cell.key, k) ∈ doublings steps ∧
      e.1 = cell.key ∧ e.2.iterations = doubledTimes cell.count k := by
  rw [measured_steps] at he
  obtain ⟨f, hf, rfl⟩ := List.mem_map.mp he
  refine ⟨f.cell, ?_, f.last, List.mem_map_of_mem hf, rfl, rfl⟩
  rw [← map_cell_finishedOf]
  exact List.mem_map_of_mem hf

/-- The account of a course in which all tasks are done. -/
theorem account_finished (steps : List b.Step) (table : IterationTable) :
    Account ((steps.map Step.task).filterMap RunTask.cell?) b.settings.maxDoublings table
      (steps.foldl Step.write table) (steps.flatMap Step.events) (doublings steps) where
  keys_prefix := ⟨[], by rw [map_fst_doublings, List.append_nil]⟩
  le_maxDoublings _ := doublings_le
  table_eq := foldl_write steps table
  length_retries := length_retries_steps steps
  measured _ := exists_of_mem_measured

/-- The account of a course in which a cell is given up. -/
theorem account_stopped (steps : List b.Step) {cell : Cell} (rest : List RunTask) {start : σ}
    {last : Nat} (hreached : (b.rounds cell start).Reached last) (table : IterationTable) :
    Account ((steps.map Step.task ++ .measure cell :: rest).filterMap RunTask.cell?)
      b.settings.maxDoublings table
      ((b.rounds cell start).doubledTable (steps.foldl Step.write table) last)
      (steps.flatMap Step.events ++ (b.rounds cell start).events last)
      (doublings steps ++ [(cell.key, last)]) where
  keys_prefix := by
    rw [List.map_append, map_fst_doublings, List.filterMap_append, List.map_append]
    refine (List.prefix_append_right_inj _).mpr ?_
    exact List.prefix_append [cell.key] _
  le_maxDoublings e he := by
    rcases List.mem_append.mp he with he | he
    · exact doublings_le he
    · rw [List.mem_singleton.mp he]
      exact hreached.le_maxDoublings
  table_eq := by
    rw [foldl_write, IterationTable.doubleAll, IterationTable.doubleAll, List.foldl_append]
    rfl
  length_retries key := by
    rw [readNotices_append, List.length_append, length_retries_steps, hreached.length_retries,
      doublingsOf_append, doublingsOf_cons]
    rfl
  measured e he := by
    rw [readNotices_append, Rounds.measured_events, List.append_nil] at he
    obtain ⟨cell', hcell, k, hmem, hkey, hiterations⟩ := exists_of_mem_measured he
    refine ⟨cell', ?_, k, List.mem_append_left _ hmem, hkey, hiterations⟩
    rw [List.filterMap_append]
    exact List.mem_append_left _ hcell

end Bench

/-! ### The table after a run -/

/-- How a run that ends with an error was stopped: in the calibration, or at a cell. The cells
before this one are those that were measured, and the cells after it keep their counts. -/
inductive Stopped {σ : Type} (plan : Plan) (capabilities : Capabilities) (settings : Settings)
    (outcome : Outcome σ RunReport) (e : BenchError) : Prop
  | uncalibrated (hpurposes : ∀ purpose ∈ outcome.purposes, purpose = .startup)
      (hnotices : outcome.notices = []) (htable : outcome.state.table = plan.iterationTable)
  | givenUp (finished : List Cell) (cell : Cell) (rest : List Cell) (count : Nat)
      (hcells : plan.cells capabilities = finished ++ cell :: rest)
      (hfinished : outcome.measured.map Prod.fst = finished.map Cell.key)
      (hcount : outcome.state.table.get? cell.routine cell.size = some count)
      (hrest : ∀ c ∈ rest, outcome.state.table.get? c.routine c.size = some c.count)
      (hlast : 1 ≤ settings.repetitions →
        outcome.purposes.getLast? = some (.measurement cell.routine cell.size count))
      (hcause : e = .noConvergence cell.routine cell.size count ∨
        ∃ front answer, outcome.events =
          front ++ [.launched (.measurement cell.routine cell.size count)
            ((Purpose.measurement cell.routine cell.size count).args plan.runtime) answer] ∧
          Fault plan.runtime (.measurement cell.routine cell.size count) answer e)

section Run

variable {σ : Type} {plan : Plan} {invoker : Invoker σ} {capabilities : Capabilities}
  {settings : Settings} {table table' : IterationTable} {events : List Event}

/-- The calibration does not change an account. -/
theorem Account.calibrated {cells : List Cell} {maxDoublings : Nat}
    {doublings : List ((String × Nat) × Nat)} (runtime : Runtime)
    (answers : List (Except BenchError Invocation)) (initTime : Binary64)
    (h : Account cells maxDoublings table table' events doublings) :
    Account cells maxDoublings table table'
      (startupLog runtime answers ++ .noticed (.calibrated initTime) :: events) doublings where
  keys_prefix := h.keys_prefix
  le_maxDoublings := h.le_maxDoublings
  table_eq := h.table_eq
  length_retries key := by
    rw [readNotices_calibrated fun _ => rfl]
    exact h.length_retries key
  measured := by
    rw [readNotices_calibrated fun _ => rfl]
    exact h.measured

/-- A run has an account. -/
theorem RunCourse.exists_account {result : Except BenchError RunReport}
    (h : RunCourse plan invoker capabilities settings table result table' events) :
    ∃ doublings, Account (plan.cells capabilities) settings.maxDoublings table table' events
      doublings := by
  cases h with
  | uncalibrated answers e hlength =>
    refine ⟨[], ⟨List.nil_prefix, fun e he => absurd he List.not_mem_nil, rfl, fun key => ?_,
      fun e he => ?_⟩⟩
    · rw [readNotices_startupLog]
      rfl
    · rw [readNotices_startupLog] at he
      cases he
  | @calibrated answers initTime hlength result table' events hcourse =>
    rw [← plan.filterMap_cell?_tasks capabilities]
    cases hcourse with
    | finished steps htasks =>
      rw [htasks]
      exact ⟨_, (Bench.account_finished steps table).calibrated _ _ _⟩
    | stopped steps cell rest start last e htasks hreached hends =>
      rw [htasks]
      exact ⟨_, (Bench.account_stopped steps rest hreached table).calibrated _ _ _⟩

/-- The history of a run that ends with an error. -/
theorem RunCourse.error_cases {e : BenchError}
    (h : RunCourse plan invoker capabilities settings table (.error e) table' events) :
    (∃ answers, table' = table ∧ events = startupLog plan.runtime answers) ∨
    ∃ (answers : List (Except BenchError Invocation)) (initTime : Binary64)
      (steps : List (Bench.Step ⟨plan, invoker, capabilities, settings, initTime⟩)) (cell : Cell)
      (rest : List RunTask) (start : σ) (last : Nat),
      plan.tasks capabilities = steps.map Bench.Step.task ++ .measure cell :: rest ∧
      (Bench.rounds ⟨plan, invoker, capabilities, settings, initTime⟩ cell start).GivesUp last e ∧
      table' = (Bench.rounds ⟨plan, invoker, capabilities, settings, initTime⟩ cell
        start).doubledTable (steps.foldl Bench.Step.write table) last ∧
      events = startupLog plan.runtime answers ++ .noticed (.calibrated initTime) ::
        (steps.flatMap Bench.Step.events ++
          (Bench.rounds ⟨plan, invoker, capabilities, settings, initTime⟩ cell start).events
            last) := by
  generalize hresult : (Except.error e : Except BenchError RunReport) = result at h
  cases h with
  | uncalibrated answers e' hlength => exact .inl ⟨answers, rfl, rfl⟩
  | @calibrated answers initTime hlength result table' events hcourse =>
    cases hcourse with
    | finished => cases hresult
    | stopped steps cell rest start last e' htasks hreached hends =>
      cases hresult
      exact .inr ⟨answers, initTime, steps, cell, rest, start, last, htasks, ⟨hreached, hends⟩,
        rfl, rfl⟩

/-- A run that gives up a cell was stopped there. -/
theorem Bench.stopped_of_givesUp {b : Bench σ} (hplan : b.plan.Accepted) {steps : List b.Step}
    {cell : Cell} {rest : List RunTask} {start : σ} {last : Nat} {e : BenchError}
    (htasks : b.plan.tasks b.capabilities = steps.map Step.task ++ .measure cell :: rest)
    (hgivesUp : (b.rounds cell start).GivesUp last e) {outcome : Outcome σ RunReport}
    (htable : outcome.state.table =
      (b.rounds cell start).doubledTable (steps.foldl Step.write b.plan.iterationTable) last)
    {answers : List (Except BenchError Invocation)}
    (hevents : outcome.events = startupLog b.plan.runtime answers ++
      .noticed (.calibrated b.initTime) ::
        (steps.flatMap Step.events ++ (b.rounds cell start).events last)) :
    Stopped b.plan b.capabilities b.settings outcome e := by
  obtain ⟨hreached, hends⟩ := hgivesUp
  obtain ⟨hlast, hcause⟩ := hends.last_launch
  have hcells : b.plan.cells b.capabilities =
      (finishedOf steps).map Finished.cell ++ cell :: rest.filterMap RunTask.cell? := by
    rw [← b.plan.filterMap_cell?_tasks, htasks, List.filterMap_append, map_cell_finishedOf]
    rfl
  have haccount := account_stopped steps rest hreached b.plan.iterationTable
  rw [← htasks, b.plan.filterMap_cell?_tasks, ← htable] at haccount
  have hkeys := hplan.wellFormed.cells_pairwise_ne_key b.capabilities
  have hfirst (c : Cell) (hc : c ∈ (finishedOf steps).map Finished.cell ++
      cell :: rest.filterMap RunTask.cell?) :
      b.plan.iterationTable.get? c.routine c.size = some c.count :=
    hplan.wellFormed.iterationTable_get?_of_mem_cells (hcells ▸ hc)
  -- Whatever came before, the record ends with the last round of the cell.
  obtain ⟨front, hfront⟩ : ∃ front, outcome.events = front ++ (b.rounds cell start).log last := by
    rw [hevents, Rounds.events, ← List.append_assoc, ← List.cons_append, ← List.append_assoc]
    exact ⟨_, rfl⟩
  refine .givenUp _ cell _ ((b.rounds cell start).iterations last) hcells ?_ ?_ (fun c hc => ?_)
    (fun hrepetitions => ?_) ?_
  · have hmeasured : outcome.measured = readNotices Notice.measured? outcome.events := rfl
    rw [hmeasured, hevents, readNotices_calibrated fun _ => rfl, readNotices_append,
      measured_steps, Rounds.measured_events, List.append_nil, List.map_map, List.map_map]
    rfl
  · exact haccount.get?_of_mem hplan.inWords hkeys
      (hfirst cell (List.mem_append_right _ List.mem_cons_self))
      (List.mem_append_right _ List.mem_cons_self)
  · refine (haccount.get?_of_notMem hplan.inWords fun hkey => ?_).trans
      (hfirst c (List.mem_append_right _ (List.mem_cons_of_mem _ hc)))
    rw [List.map_append, map_fst_doublings, ← map_cell_finishedOf] at hkey
    rw [hcells, List.append_cons] at hkeys
    obtain ⟨c', hc', heq⟩ : ∃ c' ∈ (finishedOf steps).map Finished.cell ++ [cell],
        c'.key = c.key := by
      rw [← List.mem_map, List.map_append]
      exact hkey
    exact (List.pairwise_append.mp hkeys).2.2 c' hc' c hc heq
  · rw [Outcome.purposes, hfront, List.filterMap_append, List.getLast?_append,
      hlast hrepetitions]
    rfl
  · rcases hcause with hexhausted | ⟨back, answer, hlog, hfault⟩
    · exact .inl hexhausted
    · refine .inr ⟨front ++ back, answer, ?_, hfault⟩
      rw [hfront, hlog, List.append_assoc]
      rfl

/-- A run that ends with an error was stopped in the calibration or at a cell. -/
theorem RunCourse.stopped (hplan : plan.Accepted) {outcome : Outcome σ RunReport} {e : BenchError}
    (h : RunCourse plan invoker capabilities settings plan.iterationTable (.error e)
      outcome.state.table outcome.events) : Stopped plan capabilities settings outcome e := by
  rcases h.error_cases with ⟨answers, htable, hevents⟩ |
    ⟨answers, initTime, steps, cell, rest, start, last, htasks, hgivesUp, htable, hevents⟩
  · refine .uncalibrated (fun purpose hpurpose => ?_) ?_ htable
    · rw [Outcome.purposes, hevents, purposes_startupLog] at hpurpose
      exact List.eq_of_mem_replicate hpurpose
    · rw [Outcome.notices, hevents, notices_startupLog]
  · let b : Bench σ := ⟨plan, invoker, capabilities, settings, initTime⟩
    exact b.stopped_of_givesUp hplan htasks hgivesUp htable hevents

/-- **The table after a run.** However the run of an accepted plan ends, each count of its table has
been doubled once for each retry of its routine and size, and the counts of other routines are as
they were. A measured cell has the count of its result, and it is these results that a finished run
reports. A run that ends with an error leaves at the cell that it stopped at the count of the last
round, and does not touch the cells after it. -/
theorem run_doubles_table (hplan : plan.Accepted) {s : σ} {outcome : Outcome σ RunReport}
    (h : run plan invoker capabilities settings (plan.start s) = outcome) :
    (∀ routine size, outcome.state.table.get? routine size =
      (plan.iterationTable.get? routine size).map fun count =>
        doubledTimes count (outcome.retries routine size).length) ∧
    (∀ routine size, (outcome.retries routine size).length ≤ settings.maxDoublings) ∧
    (∀ routine ∈ plan.routines, capabilities.allows routine = false → ∀ size,
      outcome.state.table.get? routine.name size = plan.iterationTable.get? routine.name size) ∧
    (∀ routine size result, ((routine, size), result) ∈ outcome.measured →
      outcome.state.table.get? routine size = some result.iterations) ∧
    (∀ report, outcome.result = .ok report → ∀ routine size result,
      report.matrix.get? routine size = some result ↔
        ((routine, size), result) ∈ outcome.measured) ∧
    ∀ e, outcome.result = .error e → Stopped plan capabilities settings outcome e := by
  subst h
  have hwell := hplan.wellFormed
  have hcourse := run_course invoker settings capabilities hplan s
  obtain ⟨doublings, haccount⟩ := hcourse.exists_account
  have hkeys := hwell.cells_pairwise_ne_key capabilities
  refine ⟨haccount.get?_eq hplan.inWords, fun routine size => ?_,
    fun routine hr hallows size => ?_, fun routine size result hmem => ?_,
    fun report hreport routine size result => ?_, fun e he => ?_⟩
  · refine Nat.le_trans (Nat.le_of_eq (haccount.length_retries (routine, size))) ?_
    exact doublingsOf_le (haccount.nodup_keys hkeys) haccount.le_maxDoublings _
  · refine haccount.get?_of_notMem hplan.inWords fun hkey => ?_
    obtain ⟨cell, hcell, heq⟩ := List.mem_map.mp (haccount.keys_prefix.subset hkey)
    obtain ⟨routine', hr', hallows', hcell⟩ := Plan.mem_cells_iff.mp hcell
    have hname : routine'.name = routine.name :=
      (Plan.routine_of_mem_cellsOf hcell).symm.trans (congrArg Prod.fst heq)
    rw [List.inj_on_of_nodup_map hwell.names_nodup hr' hr hname, hallows] at hallows'
    cases hallows'
  · obtain ⟨cell, hcell, k, hk, hkey, hiterations⟩ := haccount.measured _ hmem
    obtain ⟨rfl, rfl⟩ := Prod.mk.inj hkey
    have hiterations : result.iterations = doubledTimes cell.count k := hiterations
    rw [hiterations]
    exact haccount.get?_of_mem hplan.inWords hkeys (hwell.iterationTable_get?_of_mem_cells hcell) hk
  · simp only [hreport] at hcourse
    obtain ⟨answers, steps, htasks, hmatrix, -, hevents⟩ := hcourse.exists_steps
    let b : Bench σ := ⟨plan, invoker, capabilities, settings, report.initTime⟩
    have hmeasured : (run plan invoker capabilities settings (plan.start s)).measured =
        (Bench.finishedOf steps).map fun f => (f.key, f.result) := by
      show readNotices Notice.measured? (run plan invoker capabilities settings _).events = _
      rw [hevents, readNotices_calibrated fun _ => rfl, Bench.measured_steps]
    rw [hmatrix, hmeasured, Bench.get?_foldl_enter_iff (b := b) hwell htasks, List.mem_map]
    exact exists_congr fun f => and_congr_right fun _ => (Prod.mk.injEq ..).symm.to_iff
  · simp only [he] at hcourse
    exact hcourse.stopped hplan

/-- A run that measures its first cell again, and one that gives it up. -/
theorem run_doubles_table_samplePlan :
    let outcome (maxDoublings : Nat) :=
      run samplePlan sampleInvoker {} { repetitions := 1, maxDoublings } (samplePlan.start ())
    (outcome 1).retries "a" 8 = [2] ∧ (outcome 1).state.table.get? "a" 8 = some 2 ∧
    ∃ e, (outcome 0).result = .error e ∧
      Stopped samplePlan {} { repetitions := 1, maxDoublings := 0 } (outcome 0) e := by
  intro outcome
  have houtcome (maxDoublings : Nat) : run samplePlan sampleInvoker {}
      { repetitions := 1, maxDoublings } (samplePlan.start ()) = outcome maxDoublings := rfl
  have hretries : (outcome 1).retries "a" 8 = [2] := by decide +kernel
  have hfails : (outcome 0).result.toOption.isSome = false := by decide +kernel
  obtain ⟨htable, -⟩ := run_doubles_table samplePlan_accepted (houtcome 1)
  obtain ⟨-, -, -, -, -, hstopped⟩ := run_doubles_table samplePlan_accepted (houtcome 0)
  refine ⟨hretries, ?_, ?_⟩
  · rw [htable, hretries]
    decide
  · cases h : (outcome 0).result with
    | error e => exact ⟨e, rfl, hstopped e h⟩
    | ok report =>
      rw [h] at hfails
      cases hfails

end Run

end RoutineTiming
