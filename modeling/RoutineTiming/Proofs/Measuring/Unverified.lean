import RoutineTiming.Proofs.Measuring.FinishedRun

/-!
# Verdicts have no influence on measurements

A run gives verdicts on the values that were returned, but what it does next never depends on one.
If all verdicts are forgotten, then the run of a plan becomes the run of the plan that expects no
values. So two plans that differ only in the values that they expect are measured in the same way.

## Main definitions

* `Plan.unverified` : the plan that expects no values.
* `Outcome.unverified` : an outcome without verdicts.
* `Session.Forgets` : a session that does without verdicts what another one does with them.
* `Plan.SameTiming` : the plans that differ only in the values that they expect.

## Main results

* `forgets_run` : the run of a plan, and that of the plan that expects no values.
* `run_of_sameTiming` : the runs of plans that differ only in the values that they expect.
-/

namespace RoutineTiming

/-! ### Results and matrices without verdicts -/

/-- The result without the verdict on its value. -/
def CellResult.unverified (result : CellResult) : CellResult := { result with verified := none }

theorem OrderedMap.mapValues_insert {κ ν μ : Type} [Ord κ] [Std.TransOrd κ] [Std.LawfulEqOrd κ]
    (f : κ → ν → μ) (m : OrderedMap κ ν) (k : κ) (v : ν) :
    (m.insert k v).mapValues f = (m.mapValues f).insert k (f k v) := by
  have hentries (entries : List (κ × ν)) :
      (insertEntry k v entries).map (fun e => (e.1, f e.1 e.2)) =
        insertEntry k (f k v) (entries.map fun e => (e.1, f e.1 e.2)) := by
    induction entries with
    | nil => rfl
    | cons head rest ih =>
      simp only [insertEntry, List.map_cons]
      cases compare k head.1 with
      | lt => rfl
      | eq => rfl
      | gt => exact congrArg _ ih
  exact OrderedMap.ext (hentries m.entries)

namespace ResultsMatrix

/-- The matrix without verdicts. -/
def unverified (matrix : ResultsMatrix) : ResultsMatrix where
  rows := matrix.rows.map fun row => (row.1, row.2.mapValues fun _ => CellResult.unverified)
  distinct := by
    rw [List.map_map]
    exact matrix.distinct

theorem unverified_insert (matrix : ResultsMatrix) (routine : String) (size : Nat)
    (result : CellResult) :
    (matrix.insert routine size result).unverified =
      matrix.unverified.insert routine size result.unverified := by
  have hrows (rows : List (String × ResultsRow)) :
      (insertCell routine size result rows).map
          (fun row => (row.1, row.2.mapValues fun _ => CellResult.unverified)) =
        insertCell routine size result.unverified
          (rows.map fun row => (row.1, row.2.mapValues fun _ => CellResult.unverified)) := by
    induction rows with
    | nil => rfl
    | cons head rest ih =>
      rw [insertCell, List.map_cons, insertCell]
      split
      · rw [List.map_cons, OrderedMap.mapValues_insert]
      · rw [List.map_cons, ih]
  exact ResultsMatrix.ext (hrows matrix.rows)

end ResultsMatrix

/-- The report without verdicts. -/
def RunReport.unverified (report : RunReport) : RunReport :=
  { report with matrix := report.matrix.unverified }

/-! ### Events without verdicts -/

/-- The notice without a verdict, if it is more than a verdict. -/
def Notice.unverified? : Notice → Option Notice
  | .mismatch .. => none
  | .measured routine size result => some (.measured routine size result.unverified)
  | notice => some notice

/-- The event without a verdict, if it is more than a verdict. -/
def Event.unverified? : Event → Option Event
  | .launched purpose args answer => some (.launched purpose args answer)
  | .noticed notice => notice.unverified?.map .noticed

theorem filterMap_call?_unverified (events : List Event) :
    (events.filterMap Event.unverified?).filterMap Event.call? = events.filterMap Event.call? := by
  rw [List.filterMap_filterMap]
  refine List.filterMap_congr fun event _ => ?_
  cases event with
  | launched => rfl
  | noticed notice => cases notice <;> rfl

theorem filterMap_notice?_unverified (events : List Event) :
    (events.filterMap Event.unverified?).filterMap Event.notice? =
      (events.filterMap Event.notice?).filterMap Notice.unverified? := by
  rw [List.filterMap_filterMap, List.filterMap_filterMap]
  refine List.filterMap_congr fun event _ => ?_
  cases event with
  | launched => rfl
  | noticed notice => cases notice <;> rfl

theorem filterMap_unverified?_noticed (notices : List Notice) :
    (notices.map Event.noticed).filterMap Event.unverified? =
      (notices.filterMap Notice.unverified?).map .noticed := by
  rw [List.filterMap_map, List.map_filterMap]
  rfl

/-- The outcome without verdicts, in its events and in its value. -/
def Outcome.unverified {σ α β : Type} (f : α → β) (outcome : Outcome σ α) : Outcome σ β where
  result := outcome.result.map f
  state := outcome.state
  events := outcome.events.filterMap Event.unverified?

/-! ### Sessions without verdicts -/

namespace Session

variable {σ α β γ δ : Type}

/-- A session does without verdicts what another one does with them. -/
def Forgets (f : α → β) (session : Session σ α) (blind : Session σ β) : Prop :=
  ∀ state, blind state = (session state).unverified f

theorem Forgets.pure (f : α → β) (a : α) :
    Forgets f (Pure.pure a : Session σ α) (Pure.pure (f a)) := fun _ => rfl

/-- Sessions in sequence forget what each of them forgets. -/
theorem Forgets.bind {f : α → β} {g : γ → δ} {first : Session σ α} {blind : Session σ β}
    {next : α → Session σ γ} {blindNext : β → Session σ δ} (hfirst : Forgets f first blind)
    (hnext : ∀ a, Forgets g (next a) (blindNext (f a))) :
    Forgets g (first >>= next) (blind >>= blindNext) := by
  intro state
  have hblind := hfirst state
  rcases houtcome : first state with ⟨e | a, state', events⟩
  · rw [houtcome] at hblind
    rw [bind_of_apply_error houtcome, bind_of_apply_error hblind]
    rfl
  · rw [houtcome] at hblind
    rw [bind_of_apply_ok houtcome, bind_of_apply_ok hblind, hnext]
    simp only [Outcome.unverified, List.filterMap_append]

theorem Forgets.fail (f : α → β) (e : BenchError) :
    Forgets f (Session.fail e : Session σ α) (Session.fail e) := fun _ => rfl

theorem Forgets.table : Forgets id (Session.table : Session σ IterationTable) Session.table :=
  fun _ => rfl

theorem Forgets.modifyTable (change : IterationTable → IterationTable) :
    Forgets id (Session.modifyTable change : Session σ Unit) (Session.modifyTable change) :=
  fun _ => rfl

theorem Forgets.notifyAll (notices : List Notice) :
    Forgets id (Session.notifyAll notices : Session σ Unit)
      (Session.notifyAll (notices.filterMap Notice.unverified?)) := by
  intro state
  rw [notifyAll_apply, notifyAll_apply, Outcome.unverified, filterMap_unverified?_noticed]
  rfl

theorem Forgets.notify {notice notice' : Notice} (h : notice.unverified? = some notice') :
    Forgets id (Session.notify notice : Session σ Unit) (Session.notify notice') := by
  intro state
  rw [notify_apply, notify_apply, Outcome.unverified]
  simp only [List.filterMap_cons, Event.unverified?, h, Option.map_some, List.filterMap_nil]
  rfl

theorem Forgets.examine (invoker : Invoker σ) (runtime : Runtime) (purpose : Purpose)
    (verdict : Invocation → Except BenchError α) :
    Forgets id (Session.examine invoker runtime purpose verdict)
      (Session.examine invoker runtime purpose verdict) := by
  intro state
  rw [examine_apply, Outcome.unverified]
  cases (invoker (purpose.args runtime) state.invoker).1 >>= verdict <;> rfl

end Session

/-! ### Measurements give no verdicts -/

section Measurement

variable {σ : Type} (invoker : Invoker σ) (runtime : Runtime) (settings : Settings)

theorem forgets_collectSamples (routine : String) (size iterations repetitions : Nat)
    (samples : Samples) :
    Session.Forgets id
      (collectSamples invoker runtime routine size iterations repetitions samples)
      (collectSamples invoker runtime routine size iterations repetitions samples) := by
  induction repetitions generalizing samples with
  | zero => exact .pure id samples
  | succ repetitions ih =>
    rw [collectSamples, measureOnce_eq_examine]
    refine (Session.Forgets.examine _ _ _ _).bind fun measurement => ?_
    have hlines : (measurement.diagnostics.map Notice.diagnostic).filterMap Notice.unverified? =
        measurement.diagnostics.map .diagnostic := by
      rw [List.filterMap_map]
      exact congrFun (List.filterMap_eq_map (f := Notice.diagnostic)) _
    have hnotify := Session.Forgets.notifyAll (σ := σ)
      (measurement.diagnostics.map Notice.diagnostic)
    rw [hlines] at hnotify
    exact hnotify.bind fun _ => ih _

theorem forgets_collectStartups (repetitions : Nat) (times : List Binary64) :
    Session.Forgets id (collectStartups invoker runtime repetitions times)
      (collectStartups invoker runtime repetitions times) := by
  induction repetitions generalizing times with
  | zero => exact .pure id times
  | succ repetitions ih =>
    rw [collectStartups_succ]
    exact (Session.Forgets.examine _ _ _ _).bind fun time => ih _

theorem forgets_calibrate :
    Session.Forgets id (calibrate invoker runtime settings) (calibrate invoker runtime settings) :=
  (forgets_collectStartups _ _ _ _).bind fun _ => .pure id _

theorem forgets_measureRound (initTime : Binary64) (routine : String) (size : Nat) :
    Session.Forgets id (measureRound invoker runtime settings initTime routine size)
      (measureRound invoker runtime settings initTime routine size) := by
  refine Session.Forgets.table.bind fun table => ?_
  rw [id]
  split
  · exact .fail id _
  · exact (forgets_collectSamples _ _ _ _ _ _ _).bind fun _ => .pure id _

theorem forgets_measureUpTo (initTime threshold : Binary64) (routine : String) (size : Nat)
    (doublings : Nat) :
    Session.Forgets id
      (measureUpTo invoker runtime settings initTime threshold routine size doublings)
      (measureUpTo invoker runtime settings initTime threshold routine size doublings) := by
  induction doublings with
  | zero =>
    refine (forgets_measureRound _ _ _ _ _ _).bind fun result => ?_
    rw [id]
    split
    · exact .pure id result
    · exact .fail id _
  | succ doublings ih =>
    refine (forgets_measureRound _ _ _ _ _ _).bind fun result => ?_
    rw [id]
    split
    · exact .pure id result
    · split
      · exact .fail id _
      · exact (Session.Forgets.modifyTable _).bind fun _ =>
          (Session.Forgets.notify rfl).bind fun _ => ih

end Measurement

/-! ### Plans that expect no values -/

/-- The routine without a family. -/
def Routine.unverified (routine : Routine) : Routine := { routine with family := none }

namespace Plan

/-- The plan that expects no values. -/
def unverified (plan : Plan) : Plan :=
  { plan with expected := ∅, routines := plan.routines.map Routine.unverified }

theorem iterationTable_unverified (plan : Plan) :
    plan.unverified.iterationTable = plan.iterationTable := by
  rw [iterationTable, unverified, List.foldl_map]
  rfl

theorem check_unverified (plan : Plan) (routine : String) (size : Nat) (observed : String) :
    plan.unverified.expectedTable.check routine size observed = .unchecked := by
  have hrows : plan.unverified.expectedTable.rows = OrderedMap.ofList [] := by
    rw [expectedTable, unverified, List.filterMap_map]
    exact congrArg OrderedMap.ofList (List.filterMap_eq_nil_iff.mpr fun _ _ => rfl)
  rw [ExpectedTable.check, ExpectedTable.get?, hrows]
  rfl

end Plan

section Run

variable {σ : Type} (plan : Plan) (invoker : Invoker σ) (capabilities : Capabilities)
  (settings : Settings) (initTime : Binary64)

/-- The verdict on a cell is no more than a notice and a part of the result. -/
theorem forgets_measureCell (routine : String) (size : Nat) :
    Session.Forgets CellResult.unverified
      (measureCell plan invoker settings initTime routine size)
      (measureCell plan.unverified invoker settings initTime routine size) := by
  refine (forgets_measureUpTo _ _ _ _ _ _ _ _).bind fun measured => ?_
  dsimp only
  rw [id, Plan.check_unverified]
  have hverdict (verdict : Verdict) :
      (verdict.notices routine size measured.value).filterMap Notice.unverified? = [] := by
    cases verdict <;> rfl
  have hnotices := Session.Forgets.notifyAll (σ := σ)
    ((plan.expectedTable.check routine size measured.value).notices routine size measured.value)
  rw [hverdict] at hnotices
  exact hnotices.bind fun _ => (Session.Forgets.notify rfl).bind fun _ => .pure _ _

theorem forgets_measureRow (routine : String) (sizes : List Nat) (matrix : ResultsMatrix) :
    Session.Forgets ResultsMatrix.unverified
      (measureRow plan invoker settings initTime routine sizes matrix)
      (measureRow plan.unverified invoker settings initTime routine sizes matrix.unverified) := by
  induction sizes generalizing matrix with
  | nil => exact .pure _ matrix
  | cons size sizes ih =>
    refine (forgets_measureCell plan invoker settings initTime routine size).bind fun result => ?_
    rw [← ResultsMatrix.unverified_insert]
    exact ih _

theorem forgets_measureRows (routines : List Routine) (matrix : ResultsMatrix) :
    Session.Forgets ResultsMatrix.unverified
      (measureRows plan invoker capabilities settings initTime routines matrix)
      (measureRows plan.unverified invoker capabilities settings initTime
        (routines.map Routine.unverified) matrix.unverified) := by
  induction routines generalizing matrix with
  | nil => exact .pure _ matrix
  | cons routine routines ih =>
    have hallows : capabilities.allows routine.unverified = capabilities.allows routine := rfl
    rw [List.map_cons, measureRows, measureRows, hallows]
    split
    · exact (forgets_measureRow plan invoker settings initTime _ _ _).bind fun _ => ih _
    · exact (Session.Forgets.notify rfl).bind fun _ => ih _

/-- If all verdicts are forgotten, the run of a plan is that of the plan that expects no values. -/
theorem forgets_run :
    Session.Forgets RunReport.unverified (run plan invoker capabilities settings)
      (run plan.unverified invoker capabilities settings) :=
  (forgets_calibrate _ _ _).bind fun initTime => (Session.Forgets.notify rfl).bind fun _ =>
    (forgets_measureRows plan invoker capabilities settings initTime _ {}).bind fun _ => .pure _ _

end Run

/-! ### Plans that differ only in the values that they expect -/

/-- The plans agree in all but the values that they expect and the families of their routines. -/
structure Plan.SameTiming (plan plan' : Plan) : Prop where
  sizes_eq : plan.sizes = plan'.sizes
  runtime_eq : plan.runtime = plan'.runtime
  optional_eq : plan.optional = plan'.optional
  routines_eq : (plan.routines.map fun r => (r.name, r.requires, r.iterations)) =
    plan'.routines.map fun r => (r.name, r.requires, r.iterations)

theorem Plan.SameTiming.unverified_eq {plan plan' : Plan} (h : plan.SameTiming plan') :
    plan.unverified = plan'.unverified := by
  have hroutines := congrArg (List.map fun (name, requires, iterations) =>
    ({ name, requires, iterations } : Routine)) h.routines_eq
  rw [List.map_map, List.map_map] at hroutines
  rw [Plan.unverified, Plan.unverified, h.sizes_eq, h.runtime_eq, h.optional_eq]
  exact congrArg _ hroutines

namespace Console

variable (console : Console)

/-- A mismatch adds nothing to standard output. -/
theorem stdout_print_of_isMismatch {notice : Notice} (h : notice.isMismatch = true) :
    (console.print notice).stdout = "" := by
  cases notice with
  | mismatch => rfl
  | _ => cases h

/-- All notices but the mismatches look the same without verdicts. -/
theorem map_print_unverified (notices : List Notice) :
    (notices.filterMap Notice.unverified?).map console.print =
      (notices.filter fun notice => !notice.isMismatch).map console.print := by
  induction notices with
  | nil => rfl
  | cons notice notices ih =>
    cases notice with
    | mismatch => exact ih
    | _ => exact congrArg (_ :: ·) ih

/-- Without the mismatches, the same is written to standard output. -/
theorem stdout_printAll_filter (notices : List Notice) :
    (console.printAll (notices.filter fun notice => !notice.isMismatch)).stdout =
      (console.printAll notices).stdout := by
  induction notices with
  | nil => rfl
  | cons notice notices ih =>
    have hcons (notices : List Notice) : (console.printAll (notice :: notices)).stdout =
        (console.print notice).stdout ++ (console.printAll notices).stdout := String.join_cons
    rw [List.filter_cons]
    split
    · rw [hcons, hcons, ih]
    · next hmismatch =>
      have hmismatch : notice.isMismatch = true := by simpa using hmismatch
      rw [hcons, stdout_print_of_isMismatch console hmismatch, ih, String.empty_append]

/-- Notices that are the same without verdicts are printed alike, but for the mismatches. -/
theorem printAll_filter_eq {notices notices' : List Notice}
    (h : notices.filterMap Notice.unverified? = notices'.filterMap Notice.unverified?) :
    console.printAll (notices.filter fun notice => !notice.isMismatch) =
      console.printAll (notices'.filter fun notice => !notice.isMismatch) := by
  have hprint := congrArg (List.map console.print) h
  rw [map_print_unverified, map_print_unverified] at hprint
  have hstdout := congrArg (List.map Printed.stdout) hprint
  have hstderr := congrArg (List.map Printed.stderr) hprint
  rw [List.map_map, List.map_map] at hstdout hstderr
  exact congrArg₂ Printed.mk (congrArg String.join hstdout) (congrArg String.join hstderr)

end Console

/-- **Verdicts have no influence on measurements.** Two plans that agree in all but the values that
they expect are measured with the same calls, and leave the same table behind. Both runs finish or
both end with the same error; if they finish, the startup overhead is the same, and so is the matrix
but for its verdicts. What a console prints is the same but for the mismatches. -/
theorem run_of_sameTiming {σ : Type} {plan plan' : Plan} (h : plan.SameTiming plan')
    (invoker : Invoker σ) (capabilities : Capabilities) (settings : Settings) {s : σ}
    {first second : Outcome σ RunReport}
    (hfirst : run plan invoker capabilities settings (plan.start s) = first)
    (hsecond : run plan' invoker capabilities settings (plan'.start s) = second) :
    first.calls = second.calls ∧
    first.state = second.state ∧
    ((∃ e, first.result = .error e ∧ second.result = .error e) ∨
      ∃ report report', first.result = .ok report ∧ second.result = .ok report' ∧
        report.initTime = report'.initTime ∧
        report.matrix.unverified = report'.matrix.unverified) ∧
    ∀ console : Console,
      (console.printAll first.notices).stdout = (console.printAll second.notices).stdout ∧
      console.printAll (first.notices.filter fun notice => !notice.isMismatch) =
        console.printAll (second.notices.filter fun notice => !notice.isMismatch) := by
  have hstart : plan.start s = plan'.start s := by
    rw [Plan.start, Plan.start, ← plan.iterationTable_unverified, h.unverified_eq,
      plan'.iterationTable_unverified]
  have hforget := forgets_run plan invoker capabilities settings (plan.start s)
  have hforget' := forgets_run plan' invoker capabilities settings (plan'.start s)
  rw [hfirst, h.unverified_eq, hstart] at hforget
  rw [hsecond, hforget] at hforget'
  have hresult : first.result.map RunReport.unverified = second.result.map RunReport.unverified :=
    congrArg Outcome.result hforget'
  have hevents : first.events.filterMap Event.unverified? =
      second.events.filterMap Event.unverified? := congrArg Outcome.events hforget'
  have hnotices : first.notices.filterMap Notice.unverified? =
      second.notices.filterMap Notice.unverified? := by
    rw [Outcome.notices, Outcome.notices, ← filterMap_notice?_unverified, hevents,
      filterMap_notice?_unverified]
  have hstate : (first.unverified RunReport.unverified).state =
      (second.unverified RunReport.unverified).state := congrArg Outcome.state hforget'
  refine ⟨?_, hstate, ?_, fun console => ⟨?_, ?_⟩⟩
  · rw [Outcome.calls, Outcome.calls, ← filterMap_call?_unverified, hevents,
      filterMap_call?_unverified]
  · rcases hleft : first.result with e | report <;>
      rcases hright : second.result with e' | report' <;> rw [hleft, hright] at hresult
    · cases hresult
      exact .inl ⟨e, rfl, rfl⟩
    · cases hresult
    · cases hresult
    · have hreport : report.unverified = report'.unverified := Except.ok.inj hresult
      have htime : report.unverified.initTime = report'.unverified.initTime :=
        congrArg RunReport.initTime hreport
      exact .inr ⟨report, report', rfl, rfl, htime, congrArg RunReport.matrix hreport⟩
  · rw [← Console.stdout_printAll_filter, console.printAll_filter_eq hnotices,
      Console.stdout_printAll_filter]
  · exact console.printAll_filter_eq hnotices

/-- A plan that expects one value which is not returned, and the same plan without it. -/
theorem run_of_sameTiming_samplePlan :
    let settings : Settings := { repetitions := 1 }
    let first := run samplePlan sampleInvoker {} settings (samplePlan.start ())
    let second := run samplePlan.unverified sampleInvoker {} settings
      (samplePlan.unverified.start ())
    first.notices.any Notice.isMismatch = true ∧ second.notices.any Notice.isMismatch = false ∧
    first.calls = second.calls ∧ first.state = second.state := by
  intro settings first second
  have hfirst : run samplePlan sampleInvoker {} settings (samplePlan.start ()) = first := rfl
  have hsecond : run samplePlan.unverified sampleInvoker {} settings
      (samplePlan.unverified.start ()) = second := rfl
  have hsame : samplePlan.SameTiming samplePlan.unverified := ⟨rfl, rfl, rfl, rfl⟩
  obtain ⟨hcalls, hstate, -⟩ :=
    run_of_sameTiming hsame sampleInvoker {} settings hfirst hsecond
  exact ⟨by decide +kernel, by decide +kernel, hcalls, hstate⟩

end RoutineTiming
