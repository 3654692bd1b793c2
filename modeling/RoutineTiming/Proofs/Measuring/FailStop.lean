import RoutineTiming.Measuring.Run
import RoutineTiming.Proofs.Measuring.Faults
import RoutineTiming.Proofs.Plan.Accepted
import RoutineTiming.Proofs.Plan.Cells

/-!
# Sessions stop at the first fault

A session ends at the first faulty answer with the error that belongs to it, and nothing happens
afterwards. If no answer is faulty, the only error left is that a routine is swamped at its last
count. That a count is missing cannot be met with in the run of an accepted plan, since rounds
never take a pair out of the table.

## Main definitions

* `FailStop` : the events and the result of a session that stops at the first fault.
* `Orderly` : such sessions, with answers that come from the invoker.

## Main results

* `Orderly.bind` : orderly sessions in sequence.
* `orderly_benchmark` : the search for requirements and the run of a plan are orderly.
* `benchmark_stops_at_first_fault` : what this says about the events and the result.
-/

namespace RoutineTiming

/-- The event is a launch with a faulty answer. -/
def Event.IsFaulty : Event → Prop
  | .launched purpose _ answer => Faulty purpose answer
  | .noticed _ => False

/-- The events and the result of a session that stops at the first fault. Without a fault, it ends
with a value or with an error of its own. -/
inductive FailStop (runtime : Runtime) (own : BenchError → Prop) {α : Type} :
    List Event → Except BenchError α → Prop
  | done {events : List Event} {a : α} (hsound : ∀ event ∈ events, ¬ event.IsFaulty) :
      FailStop runtime own events (.ok a)
  | gaveUp {events : List Event} {e : BenchError} (hsound : ∀ event ∈ events, ¬ event.IsFaulty)
      (hown : own e) : FailStop runtime own events (.error e)
  | stopped {events : List Event} {purpose : Purpose} {answer : Except BenchError Invocation}
      {e : BenchError} (hsound : ∀ event ∈ events, ¬ event.IsFaulty)
      (hfault : Fault runtime purpose answer e) :
      FailStop runtime own (events ++ [.launched purpose (purpose.args runtime) answer]) (.error e)

/-- What comes after a session that ended with a value stops at its own first fault. -/
theorem FailStop.append {runtime : Runtime} {own : BenchError → Prop} {α β : Type}
    {first events : List Event} {a : α} {result : Except BenchError β}
    (hfirst : FailStop runtime own first (.ok a)) (h : FailStop runtime own events result) :
    FailStop runtime own (first ++ events) result := by
  obtain ⟨hfirst⟩ := hfirst
  have hsound {events : List Event} (hevents : ∀ event ∈ events, ¬ event.IsFaulty) :
      ∀ event ∈ first ++ events, ¬ event.IsFaulty := fun event hevent =>
    (List.mem_append.mp hevent).elim (hfirst event) (hevents event)
  cases h with
  | done h => exact .done (hsound h)
  | gaveUp h hown => exact .gaveUp (hsound h) hown
  | stopped h hfault =>
    rw [← List.append_assoc]
    exact .stopped (hsound h) hfault

/-- A faulty event is the last one, and its fault is the error that the session ends with. -/
theorem FailStop.of_faulty {runtime : Runtime} {own : BenchError → Prop} {α : Type}
    {front back : List Event} {event : Event} {result : Except BenchError α}
    (h : FailStop runtime own (front ++ event :: back) result) (hevent : event.IsFaulty) :
    back = [] ∧ ∃ purpose answer e, event = .launched purpose (purpose.args runtime) answer ∧
      result = .error e ∧ Fault runtime purpose answer e := by
  generalize hevents : front ++ event :: back = events at h
  have hmem : event ∈ events := hevents ▸ List.mem_append_right front List.mem_cons_self
  cases h with
  | done hsound => exact absurd hevent (hsound event hmem)
  | gaveUp hsound => exact absurd hevent (hsound event hmem)
  | @stopped events purpose answer e hsound hfault =>
    rcases List.eq_nil_or_concat back with rfl | ⟨back, last, rfl⟩
    · obtain ⟨-, hlast⟩ := List.append_inj' hevents rfl
      exact ⟨rfl, purpose, answer, e, List.singleton_inj.mp hlast, rfl, hfault⟩
    · rw [List.concat_eq_append, ← List.cons_append, ← List.append_assoc] at hevents
      obtain ⟨hfront, -⟩ := List.append_inj' hevents rfl
      refine absurd hevent (hsound event ?_)
      rw [← hfront]
      exact List.mem_append_right front List.mem_cons_self

/-- Without a faulty event a session ends with a value or with an error of its own. -/
theorem FailStop.of_sound {runtime : Runtime} {own : BenchError → Prop} {α : Type}
    {events : List Event} {result : Except BenchError α} (h : FailStop runtime own events result)
    (hsound : ∀ event ∈ events, ¬ event.IsFaulty) :
    (∃ a, result = .ok a) ∨ ∃ e, own e ∧ result = .error e := by
  cases h with
  | done => exact .inl ⟨_, rfl⟩
  | gaveUp _ hown => exact .inr ⟨_, hown, rfl⟩
  | stopped _ hfault =>
    exact absurd ((faulty_iff_exists_fault runtime).mpr ⟨_, hfault⟩)
      (hsound _ (List.mem_append_right _ List.mem_cons_self))

/-- An error is one of the session itself, or it belongs to the last answer. -/
theorem FailStop.own_or_fault {runtime : Runtime} {own : BenchError → Prop} {α : Type}
    {events : List Event} {e : BenchError}
    (h : FailStop runtime own events (.error e : Except BenchError α)) :
    own e ∨ ∃ (front : List Event) (purpose : Purpose) (answer : Except BenchError Invocation),
      events = front ++ [.launched purpose (purpose.args runtime) answer] ∧
        Fault runtime purpose answer e := by
  cases h with
  | gaveUp _ hown => exact .inl hown
  | stopped _ hfault => exact .inr ⟨_, _, _, rfl, hfault⟩

/-- An error ends a session of values of any type. -/
theorem FailStop.of_error {runtime : Runtime} {own : BenchError → Prop} {α β : Type}
    {events : List Event} {e : BenchError}
    (h : FailStop runtime own events (.error e : Except BenchError α)) :
    FailStop runtime own events (.error e : Except BenchError β) := by
  cases h with
  | gaveUp hsound hown => exact .gaveUp hsound hown
  | stopped hsound hfault => exact .stopped hsound hfault

/-- A session that stops at the first fault and takes its answers from the invoker. Whatever pair
has a count before it has one afterwards. -/
structure Orderly {σ α : Type} (invoker : Invoker σ) (runtime : Runtime) (own : BenchError → Prop)
    (state : SessionState σ) (outcome : Outcome σ α) : Prop where
  failStop : FailStop runtime own outcome.events outcome.result
  calls_eq : outcome.calls = outcome.purposes.map (Purpose.args runtime)
  answers_eq : outcome.answers = invoker.replies outcome.calls state.invoker
  invoker_eq : outcome.state.invoker = invoker.after outcome.calls state.invoker
  isSome_get? : ∀ routine size, (outcome.state.table.get? routine size).isSome =
    (state.table.get? routine size).isSome

namespace Orderly

variable {σ α β : Type} {invoker : Invoker σ} {runtime : Runtime} {own : BenchError → Prop}
  {state : SessionState σ}

theorem pure (a : α) : Orderly invoker runtime own state ((pure a : Session σ α) state) :=
  ⟨.done fun _ h => absurd h List.not_mem_nil, rfl, rfl, rfl, fun _ _ => rfl⟩

theorem ask (question : σ → α) :
    Orderly invoker runtime own state (Session.ask question state) :=
  ⟨.done fun _ h => absurd h List.not_mem_nil, rfl, rfl, rfl, fun _ _ => rfl⟩

theorem fail {e : BenchError} (h : own e) :
    Orderly invoker runtime own state ((Session.fail e : Session σ α) state) :=
  ⟨.gaveUp (fun _ h => absurd h List.not_mem_nil) h, rfl, rfl, rfl, fun _ _ => rfl⟩

theorem notifyAll (notices : List Notice) :
    Orderly invoker runtime own state (Session.notifyAll notices state) := by
  rw [Session.notifyAll_apply]
  refine ⟨.done fun event hevent => ?_, ?_, ?_, ?_, fun _ _ => rfl⟩
  · obtain ⟨notice, -, rfl⟩ := List.mem_map.mp hevent
    exact not_false
  · simp only [Outcome.calls, Outcome.purposes, filterMap_call?_noticed, filterMap_purpose?_noticed,
      List.map_nil]
  · simp only [Outcome.calls, Outcome.answers, filterMap_call?_noticed, filterMap_answer?_noticed,
      Invoker.replies]
  · simp only [Outcome.calls, filterMap_call?_noticed, Invoker.after, List.foldl_nil]

theorem notify (notice : Notice) :
    Orderly invoker runtime own state (Session.notify notice state) :=
  notifyAll [notice]

theorem modifyTable {change : IterationTable → IterationTable}
    (h : ∀ routine size, ((change state.table).get? routine size).isSome =
      (state.table.get? routine size).isSome) :
    Orderly invoker runtime own state (Session.modifyTable change state) :=
  ⟨.done fun _ h => absurd h List.not_mem_nil, rfl, rfl, rfl, h⟩

/-- A launch is orderly if its answer is refused for just the errors that belong to it. -/
theorem examine {purpose : Purpose} {verdict : Invocation → Except BenchError α}
    (h : ∀ answer e, (answer >>= verdict) = .error e ↔ Fault runtime purpose answer e) :
    Orderly invoker runtime own state (Session.examine invoker runtime purpose verdict state) := by
  rw [Session.examine_apply]
  refine ⟨?_, rfl, rfl, rfl, fun _ _ => rfl⟩
  dsimp only
  set answer := (invoker (purpose.args runtime) state.invoker).1
  cases hresult : answer >>= verdict with
  | error e =>
    change FailStop runtime own ([] ++ [_]) _
    exact .stopped (fun _ h => absurd h List.not_mem_nil) ((h _ _).mp hresult)
  | ok a =>
    refine .done fun event hevent hfaulty => ?_
    rw [List.mem_singleton.mp hevent] at hfaulty
    obtain ⟨e, he⟩ := (faulty_iff_exists_fault runtime).mp hfaulty
    rw [(h _ _).mpr he] at hresult
    cases hresult

/-- Orderly sessions in sequence are orderly. -/
theorem bind {first : Session σ α} {next : α → Session σ β}
    (hfirst : Orderly invoker runtime own state (first state))
    (hnext : ∀ a, (first state).result = .ok a →
      Orderly invoker runtime own (first state).state (next a (first state).state)) :
    Orderly invoker runtime own state ((first >>= next) state) := by
  rcases Session.bind_cases first next state with ⟨e, he, h⟩ | ⟨a, ha, h⟩
  · have hstop := hfirst.failStop
    rw [he] at hstop
    rw [h]
    exact ⟨hstop.of_error, hfirst.calls_eq, hfirst.answers_eq, hfirst.invoker_eq,
      hfirst.isSome_get?⟩
  · have hnext := hnext a ha
    have hstop := hfirst.failStop
    rw [ha] at hstop
    rw [h]
    refine ⟨hstop.append hnext.failStop, ?_, ?_, ?_, fun routine size => ?_⟩
    · have hcalls := hfirst.calls_eq
      have hcalls' := hnext.calls_eq
      simp only [Outcome.calls, Outcome.purposes] at hcalls hcalls'
      simp only [Outcome.calls, Outcome.purposes, List.filterMap_append, List.map_append, hcalls,
        hcalls']
    · have hanswers := hfirst.answers_eq
      have hanswers' := hnext.answers_eq
      -- The invoker answers the second session in the state that the first one left it in.
      rw [hfirst.invoker_eq] at hanswers'
      simp only [Outcome.calls, Outcome.answers] at hanswers hanswers'
      simp only [Outcome.calls, Outcome.answers, List.filterMap_append, Invoker.replies_append,
        hanswers, hanswers']
    · have hafter := hnext.invoker_eq
      rw [hfirst.invoker_eq] at hafter
      simp only [Outcome.calls, List.filterMap_append, Invoker.after_append] at hafter ⊢
      exact hafter
    · exact (hnext.isSome_get? routine size).trans (hfirst.isSome_get? routine size)

end Orderly

/-! ### The search for requirements and the run are orderly -/

section

variable {σ : Type} {invoker : Invoker σ} {runtime : Runtime} {own : BenchError → Prop}
  {settings : Settings} {initTime : Binary64} {state : SessionState σ}

theorem orderly_collectSamples (routine : String) (size iterations repetitions : Nat)
    (samples : Samples) (state : SessionState σ) :
    Orderly invoker runtime own state
      (collectSamples invoker runtime routine size iterations repetitions samples state) := by
  induction repetitions generalizing samples state with
  | zero => exact .pure samples
  | succ repetitions ih =>
    rw [collectSamples, measureOnce_eq_examine]
    exact (Orderly.examine fun _ _ => measurementOf_eq_error_iff).bind fun measurement _ =>
      (Orderly.notifyAll _).bind fun _ _ => ih _ _

theorem orderly_collectStartups (repetitions : Nat) (times : List Binary64)
    (state : SessionState σ) :
    Orderly invoker runtime own state
      (collectStartups invoker runtime repetitions times state) := by
  induction repetitions generalizing times state with
  | zero => exact .pure times
  | succ repetitions ih =>
    rw [collectStartups_succ]
    exact (Orderly.examine fun _ _ => startupTime_eq_error_iff).bind fun time _ => ih _ _

theorem orderly_calibrate : Orderly invoker runtime own state
    (calibrate invoker runtime settings state) :=
  (orderly_collectStartups _ _ _).bind fun _ _ => .pure _

theorem orderly_isPresent (requirement : Requirement) (fileExists : σ → String → Bool) :
    Orderly invoker runtime own state
      (requirement.isPresent invoker runtime fileExists state) := by
  rcases requirement with ⟨_ | path, _ | probe, hint⟩
  · exact .pure false
  · show Orderly invoker runtime own state (runProbe invoker runtime probe state)
    rw [runProbe_eq_examine]
    exact .examine fun _ _ => finding_eq_error_iff
  · exact .ask fun state => fileExists state path
  · exact .ask fun state => fileExists state path

theorem orderly_lookFor (fileExists : σ → String → Bool)
    (requirements : List (String × Requirement)) (found : Capabilities) (state : SessionState σ) :
    Orderly invoker runtime own state
      (lookFor invoker runtime fileExists requirements found state) := by
  induction requirements generalizing found state with
  | nil => exact .pure found
  | cons head rest ih => exact (orderly_isPresent _ _).bind fun present _ => ih _ _

/-- Rounds are orderly at a pair that has a count: they give up only if they do not converge. -/
theorem orderly_measureRound {routine : String} {size : Nat}
    (hcount : (state.table.get? routine size).isSome) :
    Orderly invoker runtime own state
      (measureRound invoker runtime settings initTime routine size state) := by
  obtain ⟨count, hcount⟩ := Option.isSome_iff_exists.mp hcount
  rw [measureRound_of_some _ _ _ _ hcount]
  exact (orderly_collectSamples _ _ _ _ _ _).bind fun _ _ => .pure _

theorem isSome_get?_double (table : IterationTable) (routine routine' : String)
    (size size' : Nat) :
    ((table.double routine size).get? routine' size').isSome =
      (table.get? routine' size').isSome := by
  rw [IterationTable.get?_double]
  split
  · next h => rw [h.1, h.2, Option.isSome_map]
  · rfl

theorem orderly_measureUpTo {threshold : Binary64} {routine : String} {size : Nat}
    (hown : ∀ n, own (.noConvergence routine size n)) (doublings : Nat)
    (hcount : (state.table.get? routine size).isSome) :
    Orderly invoker runtime own state (measureUpTo invoker runtime settings initTime threshold
      routine size doublings state) := by
  induction doublings generalizing state with
  | zero =>
    refine (orderly_measureRound hcount).bind fun result _ => ?_
    split
    · exact .pure result
    · exact .fail (hown _)
  | succ doublings ih =>
    have hround : Orderly invoker runtime own state
        (measureRound invoker runtime settings initTime routine size state) :=
      orderly_measureRound hcount
    refine hround.bind fun result _ => ?_
    split
    · exact .pure result
    · split
      · exact .fail (hown _)
      · refine Orderly.bind (.modifyTable fun _ _ => isSome_get?_double _ _ _ _ _) fun _ _ =>
          (Orderly.notify _).bind fun _ _ => ih ?_
        show ((IterationTable.double _ routine size).get? routine size).isSome
        rw [isSome_get?_double, hround.isSome_get?]
        exact hcount

end

/-! ### Plans -/

section Plan

variable {σ : Type} {plan : Plan} {invoker : Invoker σ} {capabilities : Capabilities}
  {settings : Settings} {initTime : Binary64} {own : BenchError → Prop} {state : SessionState σ}

/-- The table has a count for the routines at all sizes of the plan. -/
def HasCounts (plan : Plan) (routines : List Routine) (table : IterationTable) : Prop :=
  ∀ routine ∈ routines, ∀ size ∈ plan.sizes, (table.get? routine.name size).isSome

theorem HasCounts.of_orderly {α : Type} {routines : List Routine} {outcome : Outcome σ α}
    (h : HasCounts plan routines state.table)
    (horderly : Orderly invoker plan.runtime own state outcome) :
    HasCounts plan routines outcome.state.table := fun routine hr size hsize => by
  rw [horderly.isSome_get?]
  exact h routine hr size hsize

/-- A well-formed plan starts with counts for all its routines. -/
theorem Plan.WellFormed.hasCounts (h : plan.WellFormed) :
    HasCounts plan plan.routines plan.iterationTable := by
  intro routine hr size hsize
  rw [← h.map_size_cellsOf hr] at hsize
  obtain ⟨cell, hcell, rfl⟩ := List.mem_map.mp hsize
  refine Option.isSome_iff_exists.mpr ⟨cell.count, h.iterationTable_get?.mpr ⟨routine, hr, ?_⟩⟩
  rw [← routine_of_mem_cellsOf hcell]
  exact hcell

theorem orderly_measureCell {routine : String} {size : Nat}
    (hown : ∀ n, own (.noConvergence routine size n))
    (hcount : (state.table.get? routine size).isSome) :
    Orderly invoker plan.runtime own state
      (measureCell plan invoker settings initTime routine size state) :=
  (orderly_measureUpTo hown _ hcount).bind fun _ _ =>
    (Orderly.notifyAll _).bind fun _ _ => (Orderly.notify _).bind fun _ _ => .pure _

theorem orderly_measureRow {routine : String} {sizes : List Nat}
    (hown : ∀ size ∈ sizes, ∀ n, own (.noConvergence routine size n)) (matrix : ResultsMatrix)
    (hcounts : ∀ size ∈ sizes, (state.table.get? routine size).isSome) :
    Orderly invoker plan.runtime own state
      (measureRow plan invoker settings initTime routine sizes matrix state) := by
  induction sizes generalizing matrix state with
  | nil => exact .pure matrix
  | cons size sizes ih =>
    rw [List.forall_mem_cons] at hown hcounts
    have hcell : Orderly invoker plan.runtime own state
        (measureCell plan invoker settings initTime routine size state) :=
      orderly_measureCell hown.1 hcounts.1
    refine hcell.bind fun result _ => ih hown.2 _ fun size' hsize' => ?_
    rw [hcell.isSome_get?]
    exact hcounts.2 size' hsize'

theorem orderly_measureRows {routines : List Routine}
    (hown : ∀ routine ∈ routines, ∀ size ∈ plan.sizes, ∀ n,
      own (.noConvergence routine.name size n))
    (matrix : ResultsMatrix) (hcounts : HasCounts plan routines state.table) :
    Orderly invoker plan.runtime own state
      (measureRows plan invoker capabilities settings initTime routines matrix state) := by
  induction routines generalizing matrix state with
  | nil => exact .pure matrix
  | cons routine routines ih =>
    obtain ⟨hown, hownRest⟩ := List.forall_mem_cons.mp hown
    obtain ⟨hcount, hcountsRest⟩ := List.forall_mem_cons.mp hcounts
    rw [measureRows]
    split
    · have hrow : Orderly invoker plan.runtime own state
          (measureRow plan invoker settings initTime routine.name plan.sizes matrix state) :=
        orderly_measureRow hown matrix hcount
      exact hrow.bind fun matrix _ => ih hownRest matrix (HasCounts.of_orderly hcountsRest hrow)
    · have hskip : Orderly invoker plan.runtime own state
          (Session.notify (skipNotice capabilities routine) state) := .notify _
      exact hskip.bind fun _ _ => ih hownRest matrix (HasCounts.of_orderly hcountsRest hskip)

/-- A routine of the plan did not converge at a size of the plan. -/
def Plan.NotConverged (plan : Plan) (e : BenchError) : Prop :=
  ∃ routine ∈ plan.routines, ∃ size ∈ plan.sizes, ∃ n, e = .noConvergence routine.name size n

/-- The run of a plan is orderly, and gives up only if a routine does not converge. -/
theorem orderly_run (hcounts : HasCounts plan plan.routines state.table) :
    Orderly invoker plan.runtime plan.NotConverged state
      (run plan invoker capabilities settings state) := by
  have hcalibrate : Orderly invoker plan.runtime plan.NotConverged state
      (calibrate invoker plan.runtime settings state) := orderly_calibrate
  have hcounts' := HasCounts.of_orderly hcounts hcalibrate
  refine hcalibrate.bind fun initTime _ => Orderly.bind (.notify _) fun _ _ =>
    Orderly.bind (orderly_measureRows (fun routine hr size hsize n => ?_) _ hcounts') fun _ _ =>
      .pure _
  exact ⟨routine, hr, size, hsize, n, rfl⟩

theorem orderly_benchmark (hcounts : HasCounts plan plan.routines state.table)
    (fileExists : σ → String → Bool) :
    Orderly invoker plan.runtime plan.NotConverged state
      (benchmark plan invoker fileExists settings state) := by
  have hdetect : Orderly invoker plan.runtime plan.NotConverged state
      (detect plan invoker fileExists state) := orderly_lookFor _ _ _ _
  exact hdetect.bind fun _ _ => orderly_run (HasCounts.of_orderly hcounts hdetect)

/-- **A session stops at the first fault.** A faulty answer is the last event of the search for
requirements and the run of an accepted plan, and the error that belongs to it is the result.
Without a faulty answer the plan is measured, or a routine does not converge. -/
theorem benchmark_stops_at_first_fault (hplan : plan.Accepted) (fileExists : σ → String → Bool)
    {s : σ} {outcome : Outcome σ RunReport}
    (h : benchmark plan invoker fileExists settings (plan.start s) = outcome) :
    outcome.calls = outcome.purposes.map (Purpose.args plan.runtime) ∧
    outcome.answers = invoker.replies outcome.calls s ∧
    (∀ (front back : List Event) (purpose : Purpose) (args : List String)
      (answer : Except BenchError Invocation),
      outcome.events = front ++ .launched purpose args answer :: back → Faulty purpose answer →
        back = [] ∧ ∃ e, outcome.result = .error e ∧ Fault plan.runtime purpose answer e) ∧
    ((∀ (purpose : Purpose) (args : List String) (answer : Except BenchError Invocation),
      .launched purpose args answer ∈ outcome.events → ¬ Faulty purpose answer) →
        (∃ report, outcome.result = .ok report) ∨
          ∃ e, plan.NotConverged e ∧ outcome.result = .error e) := by
  subst h
  have horderly : Orderly invoker plan.runtime plan.NotConverged (plan.start s)
      (benchmark plan invoker fileExists settings (plan.start s)) :=
    orderly_benchmark hplan.wellFormed.hasCounts fileExists
  refine ⟨horderly.calls_eq, horderly.answers_eq,
    fun front back purpose args answer hevents hfaulty => ?_, fun hsound => ?_⟩
  · have hstop := horderly.failStop
    rw [hevents] at hstop
    obtain ⟨hback, purpose, answer, e, hevent, hresult, hfault⟩ := hstop.of_faulty hfaulty
    cases hevent
    exact ⟨hback, e, hresult, hfault⟩
  · refine horderly.failStop.of_sound fun event hevent => ?_
    cases event with
    | launched purpose args answer => exact hsound purpose args answer hevent
    | noticed notice => exact not_false

/-- No answer of the invoker of the samples is faulty. -/
theorem not_faulty_of_mem_replies_sampleInvoker {calls : List (List String)}
    {answer : Except BenchError Invocation} (h : answer ∈ sampleInvoker.replies calls ())
    (purpose : Purpose) : ¬ Faulty purpose answer := by
  induction calls with
  | nil => cases h
  | cons args calls ih =>
    rw [Invoker.replies, List.mem_cons] at h
    refine h.elim (fun hanswer => ?_) ih
    subst hanswer
    cases purpose with
    | probe =>
      rintro (hnoise | ⟨e, he⟩)
      · exact hnoise (by decide : trim "" = "")
      · cases (parse_sample _).symm.trans he
    | startup => exact fun hfailed => hfailed rfl
    | measurement =>
      rintro (hfailed | ⟨e, he⟩)
      · exact hfailed rfl
      · cases (parseMeasurement_sample _).symm.trans he

/-- A session in which a process fails after the first cell, and one in which none fails. -/
theorem benchmark_stops_at_first_fault_samplePlan :
    let failure : Invocation :=
      { stdout := "", stderr := "no\n", elapsed := .ofNanoseconds 0,
        failure := some "exit status: 3" }
    let failing : Invoker Unit := fun args s =>
      if args[1]? = some "9" then (.ok failure, s) else sampleInvoker args s
    let outcome (invoker : Invoker Unit) :=
      benchmark samplePlan invoker (fun _ _ => true) { repetitions := 1 } (samplePlan.start ())
    (outcome failing).calls =
      [["init", "0", "0"], ["a", "8", "1"], ["a", "8", "2"], ["a", "9", "2"]] ∧
    (outcome failing).result = .error (.routineFailed "a" "exit status: 3" "no") ∧
    ∃ report, (outcome sampleInvoker).result = .ok report := by
  intro failure failing outcome
  have houtcome (invoker : Invoker Unit) : benchmark samplePlan invoker (fun _ _ => true)
      { repetitions := 1 } (samplePlan.start ()) = outcome invoker := rfl
  have hcalls : (outcome failing).calls =
      [["init", "0", "0"], ["a", "8", "1"], ["a", "8", "2"], ["a", "9", "2"]] := by
    decide +kernel
  refine ⟨hcalls, ?_, ?_⟩
  · obtain ⟨-, hanswers, hstop, -⟩ :=
      benchmark_stops_at_first_fault samplePlan_accepted (fun _ _ => true) (houtcome failing)
    have hlast : (outcome failing).purposes.getLast? = some (.measurement "a" 9 2) := by
      decide +kernel
    have hmem : .ok failure ∈ (outcome failing).answers := by
      rw [hanswers, hcalls]
      exact List.mem_of_getLast? rfl
    obtain ⟨event, hevent, hanswer⟩ := List.mem_filterMap.mp hmem
    cases event with
    | noticed => cases hanswer
    | launched purpose args answer =>
      cases hanswer
      obtain ⟨front, back, hsplit⟩ := List.append_of_mem hevent
      have hfaulty : Faulty purpose (.ok failure) := by
        cases purpose with
        | probe => exact .inl (by decide)
        | startup => exact Option.some_ne_none _
        | measurement => exact .inl (Option.some_ne_none _)
      obtain ⟨rfl, e, hresult, hfault⟩ := hstop front back purpose args _ hsplit hfaulty
      rw [Outcome.purposes, hsplit, List.filterMap_append] at hlast
      obtain rfl : purpose = .measurement "a" 9 2 := by
        simpa [Event.purpose?] using hlast
      rw [hresult]
      cases hfault with
      | failedMeasurement hstatus =>
        cases hstatus
        exact congrArg _ (congrArg _ (by decide +kernel))
      | badMeasurement hsuccess => cases hsuccess
  · obtain ⟨-, hanswers, -, hfinished⟩ :=
      benchmark_stops_at_first_fault samplePlan_accepted (fun _ _ => true) (houtcome sampleInvoker)
    refine (hfinished fun purpose args answer hevent => ?_).resolve_right ?_
    · have hmem : answer ∈ (outcome sampleInvoker).answers :=
        List.mem_filterMap.mpr ⟨_, hevent, rfl⟩
      rw [hanswers] at hmem
      exact not_faulty_of_mem_replies_sampleInvoker hmem purpose
    · rintro ⟨e, -, he⟩
      have hok : (outcome sampleInvoker).result.toOption.isSome = true := by decide +kernel
      rw [he] at hok
      cases hok

end Plan

end RoutineTiming
