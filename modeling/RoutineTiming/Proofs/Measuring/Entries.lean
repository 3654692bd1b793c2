import RoutineTiming.Measuring.Run
import RoutineTiming.Proofs.Measuring.Launches
import RoutineTiming.Proofs.Plan.EntryPoints

/-!
# Launches of different routines

Every launch of a session has the arguments that belong to its purpose, whatever plan, capabilities
and answers the session has. So the entry points of two launches that were not made for one routine
differ if the template of the runtime has a placeholder.

## Main definitions

* `Purpose.routine` : the routine that a launch is made for.
* `Event.Conforms`, `Session.Conforms` : launches with the arguments that belong to their purposes.

## Main results

* `Session.Conforms.bind` : sessions in sequence.
* `conforms_detect`, `conforms_run` : the search for requirements and the run of a plan.
* `different_routines_different_entries` : the pieces of the template decide on the entry points,
  and these tell the routines of a run apart.
-/

namespace RoutineTiming

/-- The routine that a launch is made for. -/
def Purpose.routine (runtime : Runtime) : Purpose → String
  | .probe routine => routine
  | .startup => runtime.init
  | .measurement routine _ _ => routine

theorem Purpose.head?_args (runtime : Runtime) (purpose : Purpose) :
    (purpose.args runtime).head? = some (runtime.entryFor (purpose.routine runtime)) := by
  cases purpose <;> rfl

/-- If it is a launch, then with the arguments that belong to its purpose. -/
def Event.Conforms (runtime : Runtime) : Event → Prop
  | .launched purpose args _ => args = purpose.args runtime
  | .noticed _ => True

/-- Every launch of the session has the arguments that belong to its purpose. -/
def Session.Conforms {σ α : Type} (runtime : Runtime) (session : Session σ α) : Prop :=
  ∀ state, ∀ event ∈ (session state).events, event.Conforms runtime

/-! ### Steps -/

namespace Session.Conforms

variable {σ α β : Type} {runtime : Runtime}

theorem of_events_eq_nil {session : Session σ α} (h : ∀ state, (session state).events = []) :
    session.Conforms runtime := by
  intro state event hevent
  rw [h] at hevent
  exact absurd hevent List.not_mem_nil

theorem pure (a : α) : (pure a : Session σ α).Conforms runtime := of_events_eq_nil fun _ => rfl

theorem ofExcept (result : Except BenchError α) :
    (Session.ofExcept result : Session σ α).Conforms runtime := of_events_eq_nil fun _ => rfl

theorem notifyAll (notices : List Notice) :
    (Session.notifyAll notices : Session σ Unit).Conforms runtime := by
  intro state event hevent
  rw [notifyAll_apply] at hevent
  obtain ⟨notice, -, rfl⟩ := List.mem_map.mp hevent
  trivial

theorem notify (notice : Notice) :
    (Session.notify notice : Session σ Unit).Conforms runtime :=
  notifyAll [notice]

theorem examine (invoker : Invoker σ) (purpose : Purpose)
    (verdict : Invocation → Except BenchError α) :
    (Session.examine invoker runtime purpose verdict).Conforms runtime := by
  intro state event hevent
  rw [examine_apply, List.mem_singleton] at hevent
  subst hevent
  rfl

/-- Sessions in sequence keep to the arguments if each of them does. -/
theorem bind {first : Session σ α} {next : α → Session σ β} (hfirst : first.Conforms runtime)
    (hnext : ∀ a, (next a).Conforms runtime) : (first >>= next).Conforms runtime := by
  intro state event hevent
  rcases bind_cases first next state with ⟨e, -, heq⟩ | ⟨a, -, heq⟩
  · rw [heq] at hevent
    exact hfirst state event hevent
  · rw [heq] at hevent
    exact (List.mem_append.mp hevent).elim (hfirst state event) (hnext a _ event)

end Session.Conforms

/-! ### Runs -/

section

variable {σ : Type} (invoker : Invoker σ) (runtime : Runtime) (settings : Settings)
  (initTime : Binary64)

theorem conforms_collectSamples (routine : String) (size iterations repetitions : Nat)
    (samples : Samples) :
    (collectSamples invoker runtime routine size iterations repetitions samples).Conforms
      runtime := by
  induction repetitions generalizing samples with
  | zero => exact .pure samples
  | succ repetitions ih =>
    rw [collectSamples, measureOnce_eq_examine]
    exact .bind (.examine _ _ _) fun _ => .bind (.notifyAll _) fun _ => ih _

theorem conforms_collectStartups (repetitions : Nat) (times : List Binary64) :
    (collectStartups invoker runtime repetitions times).Conforms runtime := by
  induction repetitions generalizing times with
  | zero => exact .pure times
  | succ repetitions ih =>
    rw [collectStartups_succ]
    exact .bind (.examine _ _ _) fun _ => ih _

theorem conforms_measureRound (routine : String) (size : Nat) :
    (measureRound invoker runtime settings initTime routine size).Conforms runtime := by
  refine .bind (.of_events_eq_nil fun _ => rfl) fun table => ?_
  split
  · exact .ofExcept _
  · exact .bind (conforms_collectSamples _ _ _ _ _ _ _) fun _ => .pure _

theorem conforms_measureUpTo (threshold : Binary64) (routine : String) (size doublings : Nat) :
    (measureUpTo invoker runtime settings initTime threshold routine size doublings).Conforms
      runtime := by
  induction doublings with
  | zero =>
    refine .bind (conforms_measureRound _ _ _ _ _ _) fun result => ?_
    split
    · exact .pure result
    · exact .ofExcept _
  | succ doublings ih =>
    refine .bind (conforms_measureRound _ _ _ _ _ _) fun result => ?_
    split
    · exact .pure result
    · split
      · exact .ofExcept _
      · exact .bind (.of_events_eq_nil fun _ => rfl) fun _ => .bind (.notify _) fun _ => ih

theorem conforms_isPresent (requirement : Requirement) (fileExists : σ → String → Bool) :
    (requirement.isPresent invoker runtime fileExists).Conforms runtime := by
  rw [Requirement.isPresent]
  split
  · exact .of_events_eq_nil fun _ => rfl
  · rw [runProbe_eq_examine]
    exact .examine _ _ _
  · exact .pure false

theorem conforms_lookFor (fileExists : σ → String → Bool)
    (requirements : List (String × Requirement)) (found : Capabilities) :
    (lookFor invoker runtime fileExists requirements found).Conforms runtime := by
  induction requirements generalizing found with
  | nil => exact .pure found
  | cons head rest ih => exact .bind (conforms_isPresent _ _ _ _) fun _ => ih _

variable (plan : Plan)

theorem conforms_measureRow (routine : String) (sizes : List Nat) (matrix : ResultsMatrix) :
    (measureRow plan invoker settings initTime routine sizes matrix).Conforms plan.runtime := by
  induction sizes generalizing matrix with
  | nil => exact .pure matrix
  | cons size sizes ih =>
    have hcell : (measureCell plan invoker settings initTime routine size).Conforms plan.runtime :=
      .bind (conforms_measureUpTo _ _ _ _ _ _ _ _) fun _ => .bind (.notifyAll _) fun _ =>
        .bind (.notify _) fun _ => .pure _
    exact hcell.bind fun _ => ih _

theorem conforms_measureRows (capabilities : Capabilities) (routines : List Routine)
    (matrix : ResultsMatrix) :
    (measureRows plan invoker capabilities settings initTime routines matrix).Conforms
      plan.runtime := by
  induction routines generalizing matrix with
  | nil => exact .pure matrix
  | cons routine routines ih =>
    rw [measureRows]
    split
    · exact .bind (conforms_measureRow _ _ _ _ _ _ _) fun _ => ih _
    · exact .bind (.notify _) fun _ => ih _

/-- The launches of a search for requirements have the arguments of their purposes. -/
theorem conforms_detect (fileExists : σ → String → Bool) :
    (detect plan invoker fileExists).Conforms plan.runtime :=
  conforms_lookFor _ _ _ _ _

/-- The launches of a run have the arguments of their purposes. -/
theorem conforms_run (capabilities : Capabilities) :
    (run plan invoker capabilities settings).Conforms plan.runtime := by
  have hcalibrate : (calibrate invoker plan.runtime settings).Conforms plan.runtime :=
    .bind (conforms_collectStartups _ _ _ _) fun _ => .pure _
  exact hcalibrate.bind fun _ => .bind (.notify _) fun _ =>
    .bind (conforms_measureRows _ _ _ _ _ _ _) fun _ => .pure _

end

/-! ### Entry points -/

/-- Launches with one entry point are made for one routine. -/
theorem Event.Conforms.routine_eq {runtime : Runtime} {purpose purpose' : Purpose}
    {args args' : List String} {answer answer' : Except BenchError Invocation}
    (h : (Event.launched purpose args answer).Conforms runtime)
    (h' : (Event.launched purpose' args' answer').Conforms runtime)
    (hentry : placeholder <:+: runtime.entry.toList) (hhead : args.head? = args'.head?) :
    purpose.routine runtime = purpose'.routine runtime := by
  rw [show args = purpose.args runtime from h, show args' = purpose'.args runtime from h',
    Purpose.head?_args, Purpose.head?_args, Option.some.injEq] at hhead
  exact Runtime.entryFor_injective hentry hhead

/-- **Different routines have different entry points** if the template has a placeholder. The entry
point of a routine is the pieces of the template with the name of the routine between them, and the
template has just one decomposition into such pieces. No two launches of a session, whether for a
probe, the startup overhead or a measurement, have one entry point if they are made for different
names. -/
theorem different_routines_different_entries {runtime : Runtime}
    (hentry : placeholder <:+: runtime.entry.toList) :
    Function.Injective runtime.entryFor ∧
    (∃ pieces, IsCut runtime.entry pieces ∧
      (∀ pieces', IsCut runtime.entry pieces' → pieces' = pieces) ∧
      ∀ routine, runtime.entryFor routine = routine.intercalate pieces) ∧
    ∀ {σ : Type} (plan : Plan) (invoker : Invoker σ) (fileExists : σ → String → Bool)
      (capabilities : Capabilities) (settings : Settings) (start start' : SessionState σ)
      (purpose purpose' : Purpose) (args args' : List String)
      (answer answer' : Except BenchError Invocation),
      plan.runtime = runtime →
      let events := (detect plan invoker fileExists start).events ++
        (run plan invoker capabilities settings start').events
      .launched purpose args answer ∈ events → .launched purpose' args' answer' ∈ events →
      args.head? = args'.head? → purpose.routine runtime = purpose'.routine runtime := by
  refine ⟨Runtime.entryFor_injective hentry,
    ⟨templatePieces runtime.entry, isCut_templatePieces _, fun _ h => h.eq_templatePieces,
      fun _ => rfl⟩, ?_⟩
  rintro σ plan invoker fileExists capabilities settings start start' purpose purpose' args args'
    answer answer' rfl events hmem hmem' hhead
  have hconforms : ∀ event ∈ events, event.Conforms plan.runtime := fun event hevent =>
    (List.mem_append.mp hevent).elim (conforms_detect invoker plan fileExists start event)
      (conforms_run invoker settings plan capabilities start' event)
  exact (hconforms _ hmem).routine_eq (hconforms _ hmem') hentry hhead

/-- Two placeholders side by side behind the beginning of one, in a run with a routine whose name is
a placeholder and a routine without a name. -/
theorem different_routines_different_entries_nested :
    let runtime : Runtime := { program := "m", entry := "\x7brou\x7broutine\x7d\x7broutine\x7d-" }
    let name := "\x7broutine\x7d"
    let plan : Plan :=
      { sizes := [8], runtime, routines := [{ name, iterations := [2] },
          { name := "", iterations := [2] }] }
    let outcome := run plan sampleInvoker {} { repetitions := 1 } (plan.start ())
    placeholder <:+: runtime.entry.toList ∧ runtime.entryFor name ≠ runtime.entryFor "" ∧
      runtime.entryFor name = "\x7brou\x7broutine\x7d\x7broutine\x7d-" ∧
      runtime.entryFor "" = "\x7brou-" ∧
      ∃ args args' answer answer',
        .launched (.measurement name 8 2) args answer ∈ outcome.events ∧
        .launched (.measurement "" 8 2) args' answer' ∈ outcome.events ∧
        args.head? ≠ args'.head? := by
  intro runtime name plan outcome
  have hentry : placeholder <:+: runtime.entry.toList := by decide +kernel
  obtain ⟨hinjective, ⟨pieces, -, hunique, hjoin⟩, hlaunches⟩ :=
    different_routines_different_entries hentry
  have hcut : IsCut runtime.entry ["\x7brou", "", "-"] :=
    ⟨List.cons_ne_nil _ _, by decide +kernel, by decide +kernel⟩
  have hlaunched {purpose : Purpose} (h : purpose ∈ outcome.purposes) :
      ∃ args answer, .launched purpose args answer ∈ outcome.events := by
    obtain ⟨event, hevent, hpurpose⟩ := List.mem_filterMap.mp h
    cases event with
    | noticed => cases hpurpose
    | launched purpose args answer =>
      cases hpurpose
      exact ⟨args, answer, hevent⟩
  have hpurposes : outcome.purposes = [.startup, .measurement name 8 2, .measurement "" 8 2] := by
    decide +kernel
  obtain ⟨args, answer, hmem⟩ : ∃ args answer,
      .launched (.measurement name 8 2) args answer ∈ outcome.events :=
    hlaunched (by rw [hpurposes]; decide)
  obtain ⟨args', answer', hmem'⟩ : ∃ args answer,
      .launched (.measurement "" 8 2) args answer ∈ outcome.events :=
    hlaunched (by rw [hpurposes]; decide)
  refine ⟨hentry, fun h => absurd (hinjective h) (by decide), ?_, ?_,
    args, args', answer, answer', hmem, hmem', fun hhead => ?_⟩
  · rw [hjoin, ← hunique _ hcut]
    decide +kernel
  · rw [hjoin, ← hunique _ hcut]
    decide +kernel
  · have hsame : name = "" :=
      hlaunches plan sampleInvoker (fun _ _ => true) {} { repetitions := 1 } (plan.start ())
        (plan.start ()) _ _ args args' answer answer' rfl (List.mem_append_right _ hmem)
        (List.mem_append_right _ hmem') hhead
    exact absurd hsame (by decide)

end RoutineTiming
