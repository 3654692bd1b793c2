import RoutineTiming.Proofs.Measuring.Log
import RoutineTiming.Proofs.Measuring.Search

/-!
# What is found for a plan

The search for the requirements of a plan is exact: a routine may be measured if and only if it
requires nothing, or something that was present when the search came to it. What is missing comes
with the hint of the plan, and a run gives notice of the routines that it leaves out with this hint.

## Main definitions

* `Exact` : the capabilities of a plan say what the search came to.

## Main results

* `RunLog.exists_of_skipped`, `RunLog.mem_of_skip` : the notices of routines that are left out.
* `get?_of_detect`, `exact_of_detect` : the search for the requirements of a plan is exact.
* `detect_exact` : its launches, its findings, and what a run makes of them.
-/

namespace RoutineTiming

/-! ### Routines that are left out -/

section Skipped

variable {plan : Plan} {capabilities : Capabilities} {settings : Settings} {initTime : Binary64}

/-- The rounds of a cell leave out no routine. -/
theorem CellLog.skipped_notMem {runtime : Runtime} {routine : String} {size count doublings : Nat}
    {final : Except BenchError CellResult} {events : List Event}
    (h : CellLog runtime settings initTime routine size count doublings final events)
    (name requirement hint : String) : .noticed (.skipped name requirement hint) ∉ events := by
  have hround (count : Nat) (answers : List (Except BenchError Invocation)) :
      .noticed (.skipped name requirement hint) ∉ roundLog runtime routine size count answers := by
    intro hmem
    rcases mem_launchLog hmem with ⟨answer, h⟩ | ⟨line, h⟩ <;> cases h
  induction h with
  | failed => exact hround _ _
  | accepted => exact hround _ _
  | exhausted => exact hround _ _
  | retried _ _ _ _ _ ih =>
    rw [List.mem_append, List.mem_cons]
    rintro (hmem | hmem | hmem)
    · exact hround _ _ hmem
    · cases hmem
    · exact ih hmem

/-- A notice that a routine is left out comes from a task. -/
theorem TasksLog.exists_of_skipped {tasks : List RunTask} {matrix : ResultsMatrix}
    {final : Except BenchError ResultsMatrix} {events : List Event}
    (h : TasksLog plan capabilities settings initTime tasks matrix final events)
    {name requirement hint : String} (hmem : .noticed (.skipped name requirement hint) ∈ events) :
    ∃ routine, .skip routine ∈ tasks ∧
      skipNotice capabilities routine = .skipped name requirement hint := by
  induction h with
  | done => cases hmem
  | @skipped routine _ _ _ _ _ ih =>
    rcases List.mem_cons.mp hmem with hmem | hmem
    · exact ⟨routine, List.mem_cons_self, (Event.noticed.inj hmem).symm⟩
    · exact (ih hmem).imp fun _ => .imp_left (List.mem_cons_of_mem _)
  | stopped hcell => exact absurd hmem (hcell.skipped_notMem _ _ _)
  | measured hcell _ _ _ ih =>
    rcases List.mem_append.mp hmem with hmem | hmem
    · exact absurd hmem (hcell.skipped_notMem _ _ _)
    · rcases List.mem_cons.mp hmem with hmem | hmem
      · cases hmem
      · exact (ih hmem).imp fun _ => .imp_left (List.mem_cons_of_mem _)
  | mismatched hcell _ _ _ _ ih =>
    rcases List.mem_append.mp hmem with hmem | hmem
    · exact absurd hmem (hcell.skipped_notMem _ _ _)
    · rcases List.mem_cons.mp hmem with hmem | hmem
      · cases hmem
      · rcases List.mem_cons.mp hmem with hmem | hmem
        · cases hmem
        · exact (ih hmem).imp fun _ => .imp_left (List.mem_cons_of_mem _)

/-- When all tasks are done, there is a notice for each routine that is left out. -/
theorem TasksLog.mem_of_skip {tasks : List RunTask} {matrix matrix' : ResultsMatrix}
    {events : List Event}
    (h : TasksLog plan capabilities settings initTime tasks matrix (.ok matrix') events)
    {routine : Routine} (hmem : .skip routine ∈ tasks) :
    .noticed (skipNotice capabilities routine) ∈ events := by
  generalize hfinal : (Except.ok matrix' : Except BenchError ResultsMatrix) = final at h
  induction h with
  | done => cases hmem
  | skipped _ ih =>
    rcases List.mem_cons.mp hmem with hmem | hmem
    · rw [RunTask.skip.inj hmem]
      exact List.mem_cons_self
    · exact List.mem_cons_of_mem _ (ih hmem hfinal)
  | stopped => cases hfinal
  | measured _ _ _ _ ih =>
    have hmem := (List.mem_cons.mp hmem).resolve_left fun h => nomatch h
    exact List.mem_append_right _ (List.mem_cons_of_mem _ (ih hmem hfinal))
  | mismatched _ _ _ _ _ ih =>
    have hmem := (List.mem_cons.mp hmem).resolve_left fun h => nomatch h
    exact List.mem_append_right _
      (List.mem_cons_of_mem _ (List.mem_cons_of_mem _ (ih hmem hfinal)))

/-- The routines that a plan leaves out are those that lack what they require. -/
theorem Plan.skip_mem_tasks_iff {routine : Routine} :
    .skip routine ∈ plan.tasks capabilities ↔
      routine ∈ plan.routines ∧ capabilities.allows routine = false := by
  rw [tasks, List.mem_flatMap]
  constructor
  · rintro ⟨routine', hr, hmem⟩
    rw [tasksOf] at hmem
    split at hmem
    · obtain ⟨cell, -, hcell⟩ := List.mem_map.mp hmem
      cases hcell
    · next hallows =>
      rw [RunTask.skip.inj (List.mem_singleton.mp hmem)]
      exact ⟨hr, Bool.eq_false_of_not_eq_true hallows⟩
  · rintro ⟨hr, hallows⟩
    refine ⟨routine, hr, ?_⟩
    rw [tasksOf, hallows]
    exact List.mem_singleton.mpr rfl

/-- A run gives notice of a routine that it leaves out only if the routine lacks what it
requires. -/
theorem RunLog.exists_of_skipped {result : Except BenchError RunReport} {events : List Event}
    (h : RunLog plan capabilities settings result events) {name requirement hint : String}
    (hmem : .noticed (.skipped name requirement hint) ∈ events) :
    ∃ routine ∈ plan.routines, capabilities.allows routine = false ∧
      skipNotice capabilities routine = .skipped name requirement hint := by
  have hstartup (answers : List (Except BenchError Invocation)) :
      .noticed (.skipped name requirement hint) ∉ startupLog plan.runtime answers := by
    intro hmem
    obtain ⟨answer, -, h⟩ := List.mem_map.mp hmem
    cases h
  cases h with
  | uncalibrated => exact absurd hmem (hstartup _)
  | calibrated _ _ htasks =>
    have hmem := (List.mem_append.mp hmem).resolve_left (hstartup _)
    have hmem := (List.mem_cons.mp hmem).resolve_left fun h => nomatch h
    obtain ⟨routine, hskip, hnotice⟩ := htasks.exists_of_skipped hmem
    obtain ⟨hr, hallows⟩ := Plan.skip_mem_tasks_iff.mp hskip
    exact ⟨routine, hr, hallows, hnotice⟩

/-- A finished run gives notice of each routine that lacks what it requires. -/
theorem RunLog.mem_of_skip {report : RunReport} {events : List Event}
    (h : RunLog plan capabilities settings (.ok report) events) {routine : Routine}
    (hr : routine ∈ plan.routines) (hallows : capabilities.allows routine = false) :
    .noticed (skipNotice capabilities routine) ∈ events := by
  generalize hresult : (Except.ok report : Except BenchError RunReport) = result at h
  cases h with
  | uncalibrated => cases hresult
  | @calibrated _ _ _ final _ _ _ htasks =>
    cases final with
    | error e => cases hresult
    | ok matrix =>
      refine List.mem_append_right _ (List.mem_cons_of_mem _ ?_)
      exact htasks.mem_of_skip (Plan.skip_mem_tasks_iff.mpr ⟨hr, hallows⟩)

theorem Outcome.mem_notices_iff {σ α : Type} {outcome : Outcome σ α} {notice : Notice} :
    notice ∈ outcome.notices ↔ .noticed notice ∈ outcome.events := by
  rw [notices, List.mem_filterMap]
  constructor
  · rintro ⟨event, hmem, hnotice⟩
    cases event with
    | launched => cases hnotice
    | noticed notice' => rwa [Option.some.inj hnotice] at hmem
  · exact fun hmem => ⟨_, hmem, rfl⟩

end Skipped

/-! ### What is found for a plan -/

section Detect

variable {σ : Type} {plan : Plan} {invoker : Invoker σ} {fileExists : σ → String → Bool}

/-- The capabilities of a plan say of each requirement that its routines depend on whether it was
present when the search came to it, and how to make it available if it was not. -/
structure Exact (plan : Plan) (invoker : Invoker σ) (fileExists : σ → String → Bool) (s : σ)
    (capabilities : Capabilities) : Prop where
  has_iff : ∀ name, capabilities.has name = true ↔
    Finds invoker plan.runtime fileExists plan.needed s name
  hintFor_eq_some_iff : ∀ name hint, capabilities.hintFor name = some hint ↔
    ∃ requirement, (name, requirement) ∈ plan.needed ∧ requirement.hint = hint ∧
      ¬ Finds invoker plan.runtime fileExists plan.needed s name

/-- The findings for a plan are those for the requirements that its routines depend on. -/
theorem get?_of_detect (hplan : plan.WellFormed) {state : SessionState σ}
    {capabilities : Capabilities}
    (h : (detect plan invoker fileExists state).result = .ok capabilities) {name : String}
    {finding : Finding} :
    capabilities.findings.get? name = some finding ↔
      ∃ requirement, (name, requirement) ∈ plan.needed ∧
        (Finds invoker plan.runtime fileExists plan.needed state.invoker name ∧
            finding = .present ∨
          ¬ Finds invoker plan.runtime fileExists plan.needed state.invoker name ∧
            finding = .missing requirement.hint) := by
  have hone : ∀ e ∈ plan.needed, e.2.file.isSome ≠ e.2.probe.isSome :=
    fun e he => hplan.one_check e (List.mem_filter.mp he).1
  obtain ⟨hfound, hmissing, hunneeded⟩ := get?_of_lookFor hone plan.nodup_needed h name
  constructor
  · intro hget
    by_cases hneeded : name ∈ plan.needed.map Prod.fst
    · obtain ⟨⟨name, requirement⟩, hmem, rfl⟩ := List.mem_map.mp hneeded
      refine ⟨requirement, hmem, ?_⟩
      by_cases hfinds : Finds invoker plan.runtime fileExists plan.needed state.invoker name
      · exact .inl ⟨hfinds, Option.some.inj (hget.symm.trans (hfound hfinds))⟩
      · have hhint := hmissing requirement hmem hfinds
        exact .inr ⟨hfinds, Option.some.inj (hget.symm.trans hhint)⟩
    · have hnone : capabilities.findings.get? name = none := hunneeded hneeded
      rw [hnone] at hget
      cases hget
  · rintro ⟨requirement, hmem, ⟨hfinds, rfl⟩ | ⟨hfinds, rfl⟩⟩
    · exact hfound hfinds
    · exact hmissing requirement hmem hfinds

theorem exact_of_detect (hplan : plan.WellFormed) {state : SessionState σ}
    {capabilities : Capabilities}
    (h : (detect plan invoker fileExists state).result = .ok capabilities) :
    Exact plan invoker fileExists state.invoker capabilities := by
  refine ⟨fun name => ?_, fun name hint => ?_⟩
  · rw [Capabilities.has_iff, get?_of_detect hplan h]
    constructor
    · rintro ⟨_, -, ⟨hfinds, -⟩ | ⟨-, hfinding⟩⟩
      · exact hfinds
      · cases hfinding
    · intro hfinds
      obtain ⟨⟨_, requirement⟩, hmem, rfl⟩ := List.mem_map.mp hfinds.mem
      exact ⟨requirement, hmem, .inl ⟨hfinds, rfl⟩⟩
  · rw [Capabilities.hintFor_eq_some_iff, get?_of_detect hplan h]
    constructor
    · rintro ⟨requirement, hmem, ⟨-, hfinding⟩ | ⟨hmissing, hfinding⟩⟩
      · cases hfinding
      · exact ⟨requirement, hmem, (Finding.missing.inj hfinding).symm, hmissing⟩
    · rintro ⟨requirement, hmem, rfl, hmissing⟩
      exact ⟨requirement, hmem, .inr ⟨hmissing, rfl⟩⟩

/-- A routine of the plan may be measured if it requires nothing, or something that is present. -/
theorem Exact.allows_iff {s : σ} {capabilities : Capabilities}
    (h : Exact plan invoker fileExists s capabilities) (routine : Routine) :
    capabilities.allows routine = true ↔ routine.requires = none ∨
      ∃ name, routine.requires = some name ∧
        Finds invoker plan.runtime fileExists plan.needed s name := by
  rw [Capabilities.allows]
  cases routine.requires with
  | none => simp
  | some name => simp [h.has_iff]

/-- What is present and what is missing are the parts of what routines of the plan depend on. -/
theorem Exact.needs_iff (hplan : plan.WellFormed) {s : σ} {capabilities : Capabilities}
    (h : Exact plan invoker fileExists s capabilities) (name : String) :
    (plan.needs name = true ↔
      capabilities.has name = true ∨ ∃ hint, capabilities.hintFor name = some hint) ∧
    ¬ (capabilities.has name = true ∧ ∃ hint, capabilities.hintFor name = some hint) := by
  have hneeds {requirement : Requirement} (hmem : (name, requirement) ∈ plan.needed) :
      plan.needs name = true := (List.mem_filter.mp hmem).2
  refine ⟨⟨fun hneeded => ?_, ?_⟩, ?_⟩
  · obtain ⟨requirement, hmem⟩ := hplan.exists_mem_needed hneeded
    by_cases hfinds : Finds invoker plan.runtime fileExists plan.needed s name
    · exact .inl ((h.has_iff name).mpr hfinds)
    · exact .inr ⟨_, (h.hintFor_eq_some_iff name _).mpr ⟨requirement, hmem, rfl, hfinds⟩⟩
  · rintro (hhas | ⟨hint, hhint⟩)
    · obtain ⟨⟨_, requirement⟩, hmem, rfl⟩ := List.mem_map.mp ((h.has_iff name).mp hhas).mem
      exact hneeds hmem
    · obtain ⟨requirement, hmem, -⟩ := (h.hintFor_eq_some_iff name hint).mp hhint
      exact hneeds hmem
  · rintro ⟨hhas, hint, hhint⟩
    obtain ⟨-, -, -, hmissing⟩ := (h.hintFor_eq_some_iff name hint).mp hhint
    exact hmissing ((h.has_iff name).mp hhas)

/-- The notice of a routine that is left out has what the plan says of its requirement. -/
theorem Exact.skipNotice_eq (hplan : plan.WellFormed) {s : σ} {capabilities : Capabilities}
    (h : Exact plan invoker fileExists s capabilities) {routine : Routine}
    (hr : routine ∈ plan.routines) (hallows : capabilities.allows routine = false) :
    ∃ name requirement, routine.requires = some name ∧
      plan.optional.get? name = some requirement ∧
      ¬ Finds invoker plan.runtime fileExists plan.needed s name ∧
      skipNotice capabilities routine = .skipped routine.name name requirement.hint := by
  have hlacks := mt (h.allows_iff routine).mpr (Bool.eq_false_iff.mp hallows)
  obtain ⟨name, hrequires⟩ := Option.ne_none_iff_exists'.mp fun hnone => hlacks (.inl hnone)
  have hmissing : ¬ Finds invoker plan.runtime fileExists plan.needed s name :=
    fun hfinds => hlacks (.inr ⟨name, hrequires, hfinds⟩)
  obtain ⟨requirement, hmem⟩ :=
    hplan.exists_mem_needed (Plan.needs_iff.mpr ⟨routine, hr, hrequires⟩)
  have hhint := (h.hintFor_eq_some_iff name _).mpr ⟨requirement, hmem, rfl, hmissing⟩
  refine ⟨name, requirement, hrequires, (Plan.mem_needed_iff.mp hmem).1, hmissing, ?_⟩
  rw [skipNotice, hrequires, Option.getD_some, hhint, Option.getD_some]

variable {settings : Settings} {s s' : σ} {capabilities : Capabilities}

/-- A run leaves out a routine of the plan with what the plan says of its requirement. -/
theorem Exact.of_skipped (hplan : plan.Accepted)
    (h : Exact plan invoker fileExists s capabilities) {routine name hint : String}
    (hmem : .skipped routine name hint ∈
      (run plan invoker capabilities settings (plan.start s')).notices) :
    ∃ r ∈ plan.routines, r.name = routine ∧ r.requires = some name ∧
      ∃ requirement, plan.optional.get? name = some requirement ∧ requirement.hint = hint ∧
        ¬ Finds invoker plan.runtime fileExists plan.needed s name := by
  have hlog := runLog_of_run invoker capabilities settings hplan s'
  obtain ⟨r, hr, hallows, hnotice⟩ := hlog.exists_of_skipped (Outcome.mem_notices_iff.mp hmem)
  obtain ⟨name', requirement, hrequires, hget, hmissing, heq⟩ :=
    h.skipNotice_eq hplan.wellFormed hr hallows
  rw [heq] at hnotice
  obtain ⟨rfl, rfl, rfl⟩ := Notice.skipped.inj hnotice
  exact ⟨r, hr, rfl, hrequires, requirement, hget, rfl, hmissing⟩

/-- A finished run leaves out each routine that lacks what it requires. -/
theorem Exact.skipped_mem (hplan : plan.Accepted)
    (h : Exact plan invoker fileExists s capabilities) {report : RunReport}
    (hreport : (run plan invoker capabilities settings (plan.start s')).result = .ok report)
    {r : Routine} (hr : r ∈ plan.routines) (hallows : capabilities.allows r = false) :
    ∃ name requirement, r.requires = some name ∧ plan.optional.get? name = some requirement ∧
      .skipped r.name name requirement.hint ∈
        (run plan invoker capabilities settings (plan.start s')).notices := by
  have hlog := runLog_of_run invoker capabilities settings hplan s'
  simp only [hreport] at hlog
  obtain ⟨name, requirement, hrequires, hget, -, heq⟩ := h.skipNotice_eq hplan.wellFormed hr hallows
  refine ⟨name, requirement, hrequires, hget, Outcome.mem_notices_iff.mpr ?_⟩
  rw [← heq]
  exact hlog.mem_of_skip hr hallows

/-- **The search for requirements is exact.** It comes to the requirements of an accepted plan that
routines depend on, in the order of the bytes of their names, and launches the probes of those that
have one, up to the first faulty answer, which ends it. If it comes to its end, then just those
routines may be measured that require nothing or something that was present when the search came to
it; there is a hint for what was not, and a run leaves out the routines that depend on it with this
hint. -/
theorem detect_exact (hplan : plan.Accepted) {s : σ} {outcome : Outcome σ Capabilities}
    (h : detect plan invoker fileExists (plan.start s) = outcome) :
    (∀ name requirement, (name, requirement) ∈ plan.needed ↔
      plan.optional.get? name = some requirement ∧
        ∃ routine ∈ plan.routines, routine.requires = some name) ∧
    plan.needed.Pairwise (fun e e' => utf8Bytes e.1 < utf8Bytes e'.1) ∧
    outcome.calls <+: plan.runtime.probeCalls plan.needed ∧
    outcome.answers = invoker.replies outcome.calls s ∧
    outcome.state.invoker = invoker.after outcome.calls s ∧
    (∀ (front back : List Event) (purpose : Purpose) (args : List String)
      (answer : Except BenchError Invocation),
      outcome.events = front ++ .launched purpose args answer :: back → Faulty purpose answer →
        back = [] ∧ ∃ e, outcome.result = .error e ∧ Fault plan.runtime purpose answer e) ∧
    (∀ e, outcome.result = .error e → ∃ earlier name requirement later probe,
      plan.needed = earlier ++ (name, requirement) :: later ∧ requirement.probe = some probe ∧
      outcome.calls = plan.runtime.probeCalls earlier ++ [[plan.runtime.entryFor probe, "0", "1"]] ∧
      Fault plan.runtime (.probe probe) (invoker [plan.runtime.entryFor probe, "0", "1"]
        (invoker.after (plan.runtime.probeCalls earlier) s)).1 e) ∧
    ∀ capabilities, outcome.result = .ok capabilities →
      outcome.calls = plan.runtime.probeCalls plan.needed ∧
      (∀ routine, capabilities.allows routine = true ↔ routine.requires = none ∨
        ∃ name, routine.requires = some name ∧
          Finds invoker plan.runtime fileExists plan.needed s name) ∧
      (∀ name hint, capabilities.hintFor name = some hint ↔
        ∃ requirement, (name, requirement) ∈ plan.needed ∧ requirement.hint = hint ∧
          ¬ Finds invoker plan.runtime fileExists plan.needed s name) ∧
      (∀ name, (plan.needs name = true ↔
          capabilities.has name = true ∨ ∃ hint, capabilities.hintFor name = some hint) ∧
        ¬ (capabilities.has name = true ∧ ∃ hint, capabilities.hintFor name = some hint)) ∧
      ∀ settings s', let ran := run plan invoker capabilities settings (plan.start s')
        (∀ routine name hint, .skipped routine name hint ∈ ran.notices →
          ∃ r ∈ plan.routines, r.name = routine ∧ r.requires = some name ∧
            ∃ requirement, plan.optional.get? name = some requirement ∧ requirement.hint = hint ∧
              ¬ Finds invoker plan.runtime fileExists plan.needed s name) ∧
        ∀ report, ran.result = .ok report → ∀ r ∈ plan.routines,
          capabilities.allows r = false → ∃ name requirement, r.requires = some name ∧
            plan.optional.get? name = some requirement ∧
            .skipped r.name name requirement.hint ∈ ran.notices := by
  have hdetect : detect plan invoker fileExists =
      lookFor invoker plan.runtime fileExists plan.needed {} := rfl
  subst h
  have hone : ∀ e ∈ plan.needed, e.2.file.isSome ≠ e.2.probe.isSome :=
    fun e he => hplan.wellFormed.one_check e (List.mem_filter.mp he).1
  have horderly : Orderly invoker plan.runtime (fun _ => False) (plan.start s)
      (detect plan invoker fileExists (plan.start s)) := orderly_lookFor _ _ _ _
  refine ⟨fun _ _ => Plan.mem_needed_iff, plan.pairwise_needed, ?_, horderly.answers_eq,
    horderly.invoker_eq, fun front back purpose args answer hevents hfaulty => ?_, fun e he => ?_,
    fun capabilities hok => ?_⟩
  · rw [hdetect]
    exact calls_lookFor_prefix hone _ _
  · have hstop := horderly.failStop
    rw [hevents] at hstop
    obtain ⟨hback, purpose, answer, e, hevent, hresult, hfault⟩ := hstop.of_faulty hfaulty
    cases hevent
    exact ⟨hback, e, hresult, hfault⟩
  · rw [hdetect] at he ⊢
    exact lookFor_of_error hone he
  · have hexact := exact_of_detect hplan.wellFormed hok
    rw [hdetect] at hok ⊢
    exact ⟨lookFor_of_ok hone hok, hexact.allows_iff, hexact.hintFor_eq_some_iff,
      hexact.needs_iff hplan.wellFormed, fun settings s' =>
        ⟨fun _ _ _ => hexact.of_skipped hplan, fun _ hreport _ => hexact.skipped_mem hplan hreport⟩⟩

end Detect

/-! ### A plan with two probes -/

/-- A plan with two routines, each of which depends on a requirement that has a probe. -/
def probedPlan : Plan where
  sizes := [8]
  runtime := { program := "m" }
  optional := .ofList [("x", { probe := some "q", hint := "h" }),
    ("y", { probe := some "q", hint := "i" })]
  routines := [{ name := "a", requires := some "y", iterations := [2] },
    { name := "b", requires := some "x", iterations := [1] }]

/-- The text of the plan with two probes. -/
def probedText : String :=
  "sizes=[8]\n[runtime]\nprogram=\"m\"\n" ++
    "[optional.x]\nprobe=\"q\"\nhint=\"h\"\n[optional.y]\nprobe=\"q\"\nhint=\"i\"\n" ++
    "[[routine]]\nname=\"a\"\nrequires=\"y\"\niterations=[2]\n" ++
    "[[routine]]\nname=\"b\"\nrequires=\"x\"\niterations=[1]\n"

theorem probedPlan_accepted : probedPlan.Accepted := by
  have htext : (Plan.ofText probedText).toOption = some probedPlan := by decide +kernel
  exact .of_toOption htext

/-- An invoker that prints `1` at its first launch, and `0` later on. -/
def onceInvoker : Invoker Nat := fun _ launches =>
  (.ok { stdout := if launches = 0 then "1\n5\n" else "0\n5\n", stderr := "", failure := none,
         elapsed := .ofNanoseconds 1 }, launches + 1)

/-- A search in which one probe has a different answer at its second launch. -/
theorem detect_exact_probedPlan :
    let outcome := detect probedPlan onceInvoker (fun _ _ => false) (probedPlan.start 0)
    ∃ capabilities, outcome.result = .ok capabilities ∧
      outcome.calls = [["q", "0", "1"], ["q", "0", "1"]] ∧
      capabilities.hintFor "y" = some "i" ∧
      Finds onceInvoker probedPlan.runtime (fun _ _ => false) probedPlan.needed 0 "x" ∧
      ¬ Finds onceInvoker probedPlan.runtime (fun _ _ => false) probedPlan.needed 0 "y" := by
  intro outcome
  have houtcome : detect probedPlan onceInvoker (fun _ _ => false) (probedPlan.start 0) = outcome :=
    rfl
  have hfound : outcome.result.toOption.map (fun c => (c.has "x", c.hintFor "y")) =
      some (true, some "i") := by decide +kernel
  cases hresult : outcome.result with
  | error e =>
    rw [hresult] at hfound
    cases hfound
  | ok capabilities =>
    rw [hresult] at hfound
    obtain ⟨hx, hy⟩ := Prod.mk.inj (Option.some.inj hfound)
    obtain ⟨-, -, -, -, -, -, -, hok⟩ := detect_exact probedPlan_accepted houtcome
    obtain ⟨-, hallows, hhints, -⟩ := hok capabilities hresult
    obtain ⟨-, -, -, hmissing⟩ := (hhints "y" "i").mp hy
    have hpresent := (hallows { name := "b", requires := some "x", iterations := [1] }).mp hx
    obtain ⟨name, hname, hfinds⟩ := hpresent.resolve_left (Option.some_ne_none _)
    rw [← Option.some.inj hname] at hfinds
    exact ⟨capabilities, rfl, by decide +kernel, hy, hfinds, hmissing⟩

end RoutineTiming
