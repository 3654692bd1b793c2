import RoutineTiming.Measuring.Run
import RoutineTiming.Proofs.Measuring.FinishedRun
import RoutineTiming.Proofs.Output.Grammar
import RoutineTiming.Proofs.Report.Streams

/-!
# Chatter has no influence on measurements

A routine may print any number of complete lines before its output. They become diagnostic lines and
change nothing else in what is read off the output. So two invokers whose answers differ only in
such chatter are measured alike, and a console that is not verbose shows no difference.

## Main definitions

* `RoutineOutput.behind` : an output with further diagnostic lines in front.
* `WithChatter` : an answer beside the same answer with chatter.
* `Invoker.WithChatter` : an invoker beside one that answers with chatter.
* `Session.WithChatter` : sessions that differ in nothing but chatter.

## Main results

* `RoutineOutput.parseMeasurement_append` : the output of a measured routine behind chatter.
* `withChatter_run` : the runs of a plan with and without chatter.
* `run_of_withChatter` : what such runs have in common.
-/

namespace RoutineTiming

/-! ### Outputs behind chatter -/

namespace RoutineOutput

/-- The output with the lines of a text in front of its diagnostic lines. -/
def behind (before : String) (output : RoutineOutput) : RoutineOutput :=
  { output with diagnostics := (linesOf before).map dropReturns ++ output.diagnostics }

/-- Lines in front of a value line are diagnostic, whatever the timing line is. -/
theorem ofLines_append (routine timing value : String) (earlier diagnostics : List String) :
    ofLines routine timing (value :: (earlier ++ diagnostics).reverse) =
      (ofLines routine timing (value :: diagnostics.reverse)).map fun output =>
        { output with diagnostics := earlier.map dropReturns ++ output.diagnostics } := by
  cases hread : readMicroseconds? timing with
  | none => rw [ofLines_of_none hread, ofLines_of_none hread, Except.map]
  | some user => simp [ofLines_of_some hread, Except.map]

/-- Complete lines in front of the output of a measured routine become diagnostic lines and change
nothing else. -/
theorem parseMeasurement_append (routine : String) {before stdout : String}
    (hbefore : CompleteLines before) (hfull : 2 ≤ (linesOf stdout).length) :
    parseMeasurement routine (before ++ stdout) =
      (parseMeasurement routine stdout).map (behind before) := by
  obtain ⟨diagnostics, value, timing, hlines⟩ := exists_append_of_two_le hfull
  have hstdout : HasLines stdout (diagnostics ++ [value, timing]) := linesOf_eq_iff.mp hlines
  have happend := (hasLines_linesOf before).append hbefore hstdout
  rw [← List.append_assoc] at happend
  have hlength (earlier : List String) : 2 ≤ (earlier ++ [value, timing]).length := by
    rw [List.length_append]
    exact Nat.le_add_left 2 earlier.length
  rw [parseMeasurement_of_full happend (hlength _), parseMeasurement_of_full hstdout (hlength _),
    parse_of_hasLines happend, parse_of_hasLines hstdout, ofLines_append]
  rfl

end RoutineOutput

/-! ### Answers and invokers with chatter -/

/-- The second answer to a launch is the first one, but where a routine is measured that printed its
value and its timing, there may be complete lines in front of them. -/
inductive WithChatter : Purpose → Except BenchError Invocation → Except BenchError Invocation → Prop
  | same (purpose : Purpose) (answer : Except BenchError Invocation) :
      WithChatter purpose answer answer
  | chatter {routine : String} {size iterations : Nat} {before : String}
      (invocation : Invocation) (hbefore : CompleteLines before)
      (hfull : 2 ≤ (linesOf invocation.stdout).length) :
      WithChatter (.measurement routine size iterations) (.ok invocation)
        (.ok { invocation with stdout := before ++ invocation.stdout })

/-- The measurement without diagnostic lines. -/
def Measurement.quiet (m : Measurement) : Measurement := { m with diagnostics := [] }

/-- With chatter, a launch gives the same measurement but for its diagnostic lines. -/
theorem WithChatter.map_quiet_measurementOf {routine : String} {size iterations : Nat}
    {answer answer' : Except BenchError Invocation}
    (h : WithChatter (.measurement routine size iterations) answer answer') :
    (measurementOf routine answer).map Measurement.quiet =
      (measurementOf routine answer').map Measurement.quiet := by
  cases h with
  | same => rfl
  | @chatter _ _ _ before invocation hbefore hfull =>
    have hchatty : Invocation.measurement routine
        { invocation with stdout := before ++ invocation.stdout } =
      invocation.ensureSuccess routine >>= fun _ =>
        RoutineOutput.parseMeasurement routine (before ++ invocation.stdout) >>= fun output =>
          pure ⟨output.value, invocation.elapsed.seconds, output.user, output.diagnostics⟩ := rfl
    show (Invocation.measurement routine _).map _ = (Invocation.measurement routine _).map _
    rw [hchatty, RoutineOutput.parseMeasurement_append routine hbefore hfull,
      Invocation.measurement]
    cases invocation.ensureSuccess routine with
    | error e => rfl
    | ok => cases RoutineOutput.parseMeasurement routine invocation.stdout <;> rfl

section Chatter

variable {σ σ' : Type} (runtime : Runtime) (invoker : Invoker σ) (chatty : Invoker σ')

/-- Whatever was launched before, the second invoker answers like the first one, but for
chatter. -/
def Invoker.WithChatter (s : σ) (s' : σ') : Prop :=
  ∀ (launched : List Purpose) (purpose : Purpose),
    RoutineTiming.WithChatter purpose
      (invoker (purpose.args runtime) (invoker.after (launched.map (Purpose.args runtime)) s)).1
      (chatty (purpose.args runtime) (chatty.after (launched.map (Purpose.args runtime)) s')).1

variable {runtime invoker chatty}

/-- After a launch, nothing but chatter can differ in what comes. -/
theorem Invoker.WithChatter.launch {s : σ} {s' : σ'}
    (h : invoker.WithChatter runtime chatty s s') (purpose : Purpose) :
    invoker.WithChatter runtime chatty (invoker (purpose.args runtime) s).2
      (chatty (purpose.args runtime) s').2 :=
  fun launched => h (purpose :: launched)

/-! ### Sessions with chatter -/

/-- The notice of an event, if a console shows it that is not verbose. -/
def Event.quiet? (event : Event) : Option Notice := event.notice?.filter ({} : Console).shows

theorem filterMap_quiet?_noticed (notices : List Notice) :
    (notices.map Event.noticed).filterMap Event.quiet? = notices.filter ({} : Console).shows := by
  rw [List.filterMap_map]
  exact congrFun (List.filterMap_eq_filter (p := ({} : Console).shows)) notices

/-- What a console that is not verbose shows of an outcome. -/
theorem Outcome.filter_shows_notices {α : Type} (outcome : Outcome σ α) :
    outcome.notices.filter ({} : Console).shows = outcome.events.filterMap Event.quiet? :=
  List.filter_filterMap

/-- The outcomes differ in nothing but chatter, the values being seen through a function. -/
structure Outcome.WithChatter {α γ : Type} (runtime : Runtime) (invoker : Invoker σ)
    (chatty : Invoker σ') (f : α → γ) (first : Outcome σ α) (second : Outcome σ' α) : Prop where
  result_eq : first.result.map f = second.result.map f
  table_eq : first.state.table = second.state.table
  invokers : invoker.WithChatter runtime chatty first.state.invoker second.state.invoker
  quiet_eq : first.events.filterMap Event.quiet? = second.events.filterMap Event.quiet?

variable (runtime invoker chatty) in
/-- The sessions differ in nothing but chatter if the invokers do. -/
def Session.WithChatter {α γ : Type} (f : α → γ) (first : Session σ α) (second : Session σ' α) :
    Prop :=
  ∀ s s' table, invoker.WithChatter runtime chatty s s' →
    (first ⟨s, table⟩).WithChatter runtime invoker chatty f (second ⟨s', table⟩)

namespace Session.WithChatter

variable {α β γ δ : Type}

theorem pure (a : α) :
    WithChatter runtime invoker chatty id (Pure.pure a : Session σ α) (Pure.pure a) :=
  fun _ _ _ h => ⟨rfl, rfl, h, rfl⟩

theorem fail (e : BenchError) :
    WithChatter runtime invoker chatty id (Session.fail e : Session σ α) (Session.fail e) :=
  fun _ _ _ h => ⟨rfl, rfl, h, rfl⟩

theorem table :
    WithChatter runtime invoker chatty id (Session.table : Session σ IterationTable)
      Session.table :=
  fun _ _ _ h => ⟨rfl, rfl, h, rfl⟩

theorem modifyTable (change : IterationTable → IterationTable) :
    WithChatter runtime invoker chatty id (Session.modifyTable change : Session σ Unit)
      (Session.modifyTable change) :=
  fun _ _ _ h => ⟨rfl, rfl, h, rfl⟩

theorem notify (notice : Notice) :
    WithChatter runtime invoker chatty id (Session.notify notice : Session σ Unit)
      (Session.notify notice) :=
  fun _ _ _ h => ⟨rfl, rfl, h, rfl⟩

/-- Notices may differ in those that a console does not show which is not verbose. -/
theorem notifyAll {notices notices' : List Notice}
    (hshown : notices.filter ({} : Console).shows = notices'.filter ({} : Console).shows) :
    WithChatter runtime invoker chatty id (Session.notifyAll notices : Session σ Unit)
      (Session.notifyAll notices') := by
  intro s s' table h
  rw [notifyAll_apply, notifyAll_apply]
  refine ⟨rfl, rfl, h, ?_⟩
  rw [filterMap_quiet?_noticed, filterMap_quiet?_noticed, hshown]

/-- A launch whose answer is examined for something that chatter does not change. -/
theorem examine {purpose : Purpose} {verdict : Invocation → Except BenchError α} {f : α → γ}
    (hverdict : ∀ answer answer', RoutineTiming.WithChatter purpose answer answer' →
      (answer >>= verdict).map f = (answer' >>= verdict).map f) :
    WithChatter runtime invoker chatty f (Session.examine invoker runtime purpose verdict)
      (Session.examine chatty runtime purpose verdict) := by
  intro s s' table h
  rw [examine_apply, examine_apply]
  exact ⟨hverdict _ _ (h [] purpose), rfl, h.launch purpose, rfl⟩

/-- Sessions in sequence differ in nothing but chatter if each of them does. -/
theorem bind {f : α → γ} {g : β → δ} {first : Session σ α} {second : Session σ' α}
    {next : α → Session σ β} {next' : α → Session σ' β}
    (hfirst : WithChatter runtime invoker chatty f first second)
    (hnext : ∀ a a', f a = f a' → WithChatter runtime invoker chatty g (next a) (next' a')) :
    WithChatter runtime invoker chatty g (first >>= next) (second >>= next') := by
  intro s s' table h
  obtain ⟨hresult, htable, hinvokers, hquiet⟩ := hfirst s s' table h
  rcases houtcome : first ⟨s, table⟩ with ⟨e | a, ⟨t, table'⟩, events⟩ <;>
    rcases houtcome' : second ⟨s', table⟩ with ⟨e' | a', ⟨t', table''⟩, events'⟩ <;>
    rw [houtcome, houtcome'] at hresult htable hinvokers hquiet
  · rw [bind_of_apply_error houtcome, bind_of_apply_error houtcome']
    cases hresult
    exact ⟨rfl, htable, hinvokers, hquiet⟩
  · cases hresult
  · cases hresult
  · obtain rfl : table' = table'' := htable
    obtain ⟨hresult', htable', hinvokers', hquiet'⟩ :=
      hnext a a' (Except.ok.inj hresult) t t' table' hinvokers
    rw [bind_of_apply_ok houtcome, bind_of_apply_ok houtcome']
    refine ⟨hresult', htable', hinvokers', ?_⟩
    rw [List.filterMap_append, List.filterMap_append, hquiet', hquiet]

/-- A session whose value chatter does not change, and what comes after it. -/
theorem bind_id {g : β → δ} {first : Session σ α} {second : Session σ' α}
    {next : α → Session σ β} {next' : α → Session σ' β}
    (hfirst : WithChatter runtime invoker chatty id first second)
    (hnext : ∀ a, WithChatter runtime invoker chatty g (next a) (next' a)) :
    WithChatter runtime invoker chatty g (first >>= next) (second >>= next') :=
  hfirst.bind fun a _ (h : a = _) => h ▸ hnext a

end Session.WithChatter

/-! ### Measurements with chatter -/

variable (settings : Settings) (initTime : Binary64)

theorem withChatter_collectStartups (repetitions : Nat) (times : List Binary64) :
    Session.WithChatter runtime invoker chatty id
      (collectStartups invoker runtime repetitions times)
      (collectStartups chatty runtime repetitions times) := by
  induction repetitions generalizing times with
  | zero => exact .pure times
  | succ repetitions ih =>
    rw [collectStartups_succ, collectStartups_succ]
    refine Session.WithChatter.bind_id (.examine fun answer answer' h => ?_) fun time => ih _
    cases h
    rfl

theorem withChatter_calibrate :
    Session.WithChatter runtime invoker chatty id (calibrate invoker runtime settings)
      (calibrate chatty runtime settings) :=
  (withChatter_collectStartups _ _).bind_id fun _ => .pure _

/-- What is collected are the values and the times, but not the diagnostic lines. -/
theorem withChatter_collectSamples (routine : String) (size iterations repetitions : Nat)
    (samples : Samples) :
    Session.WithChatter runtime invoker chatty id
      (collectSamples invoker runtime routine size iterations repetitions samples)
      (collectSamples chatty runtime routine size iterations repetitions samples) := by
  induction repetitions generalizing samples with
  | zero => exact .pure samples
  | succ repetitions ih =>
    rw [collectSamples, collectSamples, measureOnce_eq_examine, measureOnce_eq_examine]
    refine Session.WithChatter.bind (f := Measurement.quiet)
      (.examine fun _ _ => WithChatter.map_quiet_measurementOf) fun m m' hm => ?_
    have hhidden (m : Measurement) :
        (m.diagnostics.map Notice.diagnostic).filter ({} : Console).shows = [] := by
      rw [List.filter_map]
      exact congrArg (List.map _) (List.filter_eq_nil_iff.mpr fun _ _ => Bool.false_ne_true)
    have hpush (m : Measurement) : samples.push m = samples.push m.quiet := rfl
    refine Session.WithChatter.bind_id (.notifyAll (by rw [hhidden, hhidden])) fun _ => ?_
    rw [hpush m, hm, ← hpush m']
    exact ih _

theorem withChatter_measureRound (routine : String) (size : Nat) :
    Session.WithChatter runtime invoker chatty id
      (measureRound invoker runtime settings initTime routine size)
      (measureRound chatty runtime settings initTime routine size) := by
  refine Session.WithChatter.table.bind_id fun table => ?_
  split
  · exact .fail _
  · exact (withChatter_collectSamples _ _ _ _ _).bind_id fun _ => .pure _

theorem withChatter_measureUpTo (threshold : Binary64) (routine : String) (size doublings : Nat) :
    Session.WithChatter runtime invoker chatty id
      (measureUpTo invoker runtime settings initTime threshold routine size doublings)
      (measureUpTo chatty runtime settings initTime threshold routine size doublings) := by
  induction doublings with
  | zero =>
    refine (withChatter_measureRound _ _ _ _).bind_id fun result => ?_
    split
    · exact .pure result
    · exact .fail _
  | succ doublings ih =>
    refine (withChatter_measureRound _ _ _ _).bind_id fun result => ?_
    split
    · exact .pure result
    · split
      · exact .fail _
      · exact (Session.WithChatter.modifyTable _).bind_id fun _ =>
          (Session.WithChatter.notify _).bind_id fun _ => ih

end Chatter

/-! ### Runs with chatter -/

section Run

variable {σ σ' : Type} {invoker : Invoker σ} {chatty : Invoker σ'} (plan : Plan)
  (capabilities : Capabilities) (settings : Settings) (initTime : Binary64)

theorem withChatter_measureCell (routine : String) (size : Nat) :
    Session.WithChatter plan.runtime invoker chatty id
      (measureCell plan invoker settings initTime routine size)
      (measureCell plan chatty settings initTime routine size) :=
  (withChatter_measureUpTo _ _ _ _ _ _).bind_id fun _ =>
    (Session.WithChatter.notifyAll rfl).bind_id fun _ =>
      (Session.WithChatter.notify _).bind_id fun _ => .pure _

theorem withChatter_measureRow (routine : String) (sizes : List Nat) (matrix : ResultsMatrix) :
    Session.WithChatter plan.runtime invoker chatty id
      (measureRow plan invoker settings initTime routine sizes matrix)
      (measureRow plan chatty settings initTime routine sizes matrix) := by
  induction sizes generalizing matrix with
  | nil => exact .pure matrix
  | cons size sizes ih =>
    exact (withChatter_measureCell plan settings initTime routine size).bind_id fun _ => ih _

theorem withChatter_measureRows (routines : List Routine) (matrix : ResultsMatrix) :
    Session.WithChatter plan.runtime invoker chatty id
      (measureRows plan invoker capabilities settings initTime routines matrix)
      (measureRows plan chatty capabilities settings initTime routines matrix) := by
  induction routines generalizing matrix with
  | nil => exact .pure matrix
  | cons routine routines ih =>
    rw [measureRows, measureRows]
    split
    · exact (withChatter_measureRow plan settings initTime _ _ _).bind_id fun _ => ih _
    · exact (Session.WithChatter.notify _).bind_id fun _ => ih _

/-- The runs of a plan differ in nothing but chatter if the invokers do. -/
theorem withChatter_run :
    Session.WithChatter plan.runtime invoker chatty id (run plan invoker capabilities settings)
      (run plan chatty capabilities settings) :=
  (withChatter_calibrate settings).bind_id fun initTime =>
    (Session.WithChatter.notify _).bind_id fun _ =>
      (withChatter_measureRows plan capabilities settings initTime _ _).bind_id fun _ => .pure _

end Run

/-- **Chatter has no influence.** Complete lines in front of what a measured routine prints become
diagnostic lines, and its value, its time and every refusal stay the same. If the answers of two
invokers differ only in such lines, then the runs of a plan give the same report or end with the
same error, they leave the same table behind, and a console that is not verbose prints the same. -/
theorem run_of_withChatter {σ σ' : Type} (plan : Plan) (capabilities : Capabilities)
    (settings : Settings) {invoker : Invoker σ} {chatty : Invoker σ'} {s : σ} {s' : σ'}
    (h : invoker.WithChatter plan.runtime chatty s s') (table : IterationTable)
    {first : Outcome σ RunReport} {second : Outcome σ' RunReport}
    (hfirst : run plan invoker capabilities settings ⟨s, table⟩ = first)
    (hsecond : run plan chatty capabilities settings ⟨s', table⟩ = second) :
    (∀ routine before stdout, CompleteLines before → 2 ≤ (linesOf stdout).length →
      RoutineOutput.parseMeasurement routine (before ++ stdout) =
        (RoutineOutput.parseMeasurement routine stdout).map (RoutineOutput.behind before)) ∧
    first.result = second.result ∧
    first.state.table = second.state.table ∧
    ∀ console : Console, console.verbose = false →
      console.printAll first.notices = console.printAll second.notices := by
  have hrun := withChatter_run plan capabilities settings s s' table h
  rw [hfirst, hsecond] at hrun
  have hresult : first.result.map id = second.result.map id := hrun.result_eq
  rw [Except.map_id] at hresult
  refine ⟨fun routine before stdout => RoutineOutput.parseMeasurement_append routine, hresult,
    hrun.table_eq, fun console hquiet => ?_⟩
  rw [← console.printAll_filter_shows first.notices, ← console.printAll_filter_shows second.notices,
    Console.shows_of_not_verbose hquiet, first.filter_shows_notices, second.filter_shows_notices,
    hrun.quiet_eq]

/-- The invoker that always prints one value, which counts its launches and prints their number and
an empty line in front of the output of a measured routine. -/
def chattyInvoker : Invoker Nat := fun args launches =>
  let answer := (sampleInvoker args ()).1
  if args[1]? = some "0" then
    (answer, launches + 1)
  else
    (answer.map fun invocation =>
      { invocation with stdout := numeral launches ++ "\r\n\n" ++ invocation.stdout }, launches + 1)

theorem withChatter_chattyInvoker (runtime : Runtime) (launches : Nat) :
    sampleInvoker.WithChatter runtime chattyInvoker () launches := by
  intro launched purpose
  generalize chattyInvoker.after _ _ = launches
  have hquiet {args : List String} (hargs : args[1]? = some "0") :
      RoutineTiming.WithChatter purpose (sampleInvoker args ()).1
        (chattyInvoker args launches).1 := by
    rw [chattyInvoker, if_pos hargs]
    exact .same _ _
  cases purpose with
  | probe routine => exact hquiet rfl
  | startup => exact hquiet rfl
  | measurement routine size iterations =>
    by_cases hargs : ((Purpose.measurement routine size iterations).args runtime)[1]? = some "0"
    · exact hquiet hargs
    · rw [chattyInvoker, if_neg hargs]
      refine .chatter _ (.inr ?_) (show 2 ≤ (linesOf "8\n5\n").length by decide)
      rw [String.toList_append, List.getLast?_append]
      rfl

/-- With two repetitions and an invoker that counts its launches, the first lines of chatter are
diagnostic lines of their own, which a console shows only if it is verbose. -/
theorem run_of_withChatter_samplePlan :
    let settings : Settings := { repetitions := 2 }
    let first := run samplePlan sampleInvoker {} settings (samplePlan.start ())
    let second := run samplePlan chattyInvoker {} settings (samplePlan.start 0)
    [.diagnostic "2", .diagnostic ""] <+: second.notices.tail ∧
    first.result = second.result ∧ first.state.table = second.state.table ∧
    ({} : Console).printAll first.notices = ({} : Console).printAll second.notices := by
  intro settings first second
  have hfirst : run samplePlan sampleInvoker {} settings ⟨(), samplePlan.iterationTable⟩ = first :=
    rfl
  have hsecond : run samplePlan chattyInvoker {} settings ⟨0, samplePlan.iterationTable⟩ = second :=
    rfl
  obtain ⟨-, hresult, htable, hprinted⟩ := run_of_withChatter samplePlan {} settings
    (withChatter_chattyInvoker samplePlan.runtime 0) samplePlan.iterationTable hfirst hsecond
  exact ⟨by decide +kernel, hresult, htable, hprinted {} rfl⟩

end RoutineTiming
