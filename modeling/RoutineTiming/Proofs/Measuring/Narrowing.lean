import RoutineTiming.Proofs.Measuring.Search
import RoutineTiming.Proofs.Measuring.Stateless
import RoutineTiming.Proofs.Plan.Narrowed

/-!
# Narrowing a plan and then measuring it

If the invoker remembers nothing, then no routine of a plan has an influence on another one. A plan
that is narrowed to some of its routines is searched for fewer requirements and measured in fewer
cells, and what is found and measured is a part of what is found and measured for the whole plan.

## Main definitions

* `searchFor` : what the search for a requirement finds.

## Main results

* `lookFor_eq` : what the search for several requirements finds.
* `detect_retain` : what is found for a narrowed plan.
* `benchmark_retain` : the report on a narrowed plan.
-/

namespace RoutineTiming

variable {σ : Type} {invoker : Invoker σ}

/-! ### The search for requirements -/

/-- With a stateless invoker, the search for a requirement comes to the same end from any state. -/
theorem isPresent_result_eq (h : invoker.Stateless) (requirement : Requirement) (runtime : Runtime)
    (fileExists : String → Bool) (state state' : SessionState σ) :
    (requirement.isPresent invoker runtime (fun _ => fileExists) state).result =
      (requirement.isPresent invoker runtime (fun _ => fileExists) state').result := by
  rcases requirement with ⟨_ | path, _ | probe, hint⟩
  · rfl
  · show (runProbe invoker runtime probe state).result =
      (runProbe invoker runtime probe state').result
    rw [runProbe_eq_examine, Session.examine_apply, Session.examine_apply,
      h _ state.invoker state'.invoker]
  · rfl
  · rfl

/-- What the search for a requirement finds from a state of the invoker on. -/
def searchFor (invoker : Invoker σ) (runtime : Runtime) (fileExists : String → Bool) (s : σ)
    (e : String × Requirement) : Except BenchError (String × Finding) :=
  (e.2.isPresent invoker runtime (fun _ => fileExists) ⟨s, {}⟩).result.map fun present =>
    (e.1, if present then .present else .missing e.2.hint)

/-- The findings with several more. -/
def Capabilities.recordAll (found : Capabilities) (findings : List (String × Finding)) :
    Capabilities :=
  findings.foldl (fun found e => found.record e.1 e.2) found

/-- What was found for a requirement is its last finding. -/
theorem Capabilities.get?_recordAll (findings : List (String × Finding)) (name : String) :
    (recordAll {} findings).findings.get? name = lastValue name findings := by
  have hget := get_foldl_set (fun (found : Capabilities) name => found.findings.get? name)
    (fun found (e : String × Finding) name => found.get?_record e.1 e.2 name)
    findings {} name
  exact hget.trans (Option.or_none)

/-- The search for several requirements finds what the searches for each of them find. -/
theorem lookFor_eq (h : invoker.Stateless) (runtime : Runtime) (fileExists : String → Bool) (s : σ)
    (requirements : List (String × Requirement)) (found : Capabilities) (state : SessionState σ) :
    (lookFor invoker runtime (fun _ => fileExists) requirements found state).result =
      (requirements.mapM (searchFor invoker runtime fileExists s)).map found.recordAll := by
  induction requirements generalizing found state with
  | nil => rfl
  | cons e requirements ih =>
    obtain ⟨name, requirement⟩ := e
    have hsearch := isPresent_result_eq h requirement runtime fileExists state ⟨s, {}⟩
    rw [lookFor, List.mapM_cons, searchFor, ← hsearch]
    cases hpresent : (requirement.isPresent invoker runtime (fun _ => fileExists) state).result with
    | error e => rw [Session.bind_of_error _ hpresent]; rfl
    | ok present =>
      rw [Session.bind_of_ok _ hpresent]
      refine (ih (found.record name (if present then .present else .missing requirement.hint))
        (requirement.isPresent invoker runtime (fun _ => fileExists) state).state).trans ?_
      cases requirements.mapM (searchFor invoker runtime fileExists s) <;> rfl

/-- With a stateless invoker, what the search for the requirements of a plan finds are the findings
for those that routines depend on. -/
theorem detect_eq_ok_iff (h : invoker.Stateless) {plan : Plan} {fileExists : String → Bool} {s : σ}
    {state : SessionState σ} {capabilities : Capabilities} :
    (detect plan invoker (fun _ => fileExists) state).result = .ok capabilities ↔
      ∃ findings : List (String × Finding),
        (plan.optional.entries.filter fun e => plan.needs e.1).map
          (searchFor invoker plan.runtime fileExists s) = findings.map .ok ∧
        capabilities = Capabilities.recordAll {} findings := by
  have hlookFor := lookFor_eq h plan.runtime fileExists s
    (plan.optional.entries.filter fun e => plan.needs e.1) {} state
  have hdetect : (detect plan invoker (fun _ => fileExists) state).result = _ := hlookFor
  rw [hdetect]
  constructor
  · intro hcapabilities
    cases hfindings : (plan.optional.entries.filter fun e => plan.needs e.1).mapM
        (searchFor invoker plan.runtime fileExists s) with
    | error e =>
      rw [hfindings] at hcapabilities
      cases hcapabilities
    | ok findings =>
      rw [hfindings] at hcapabilities
      cases hcapabilities
      exact ⟨findings, mapM_eq_ok_iff.mp hfindings, rfl⟩
  · rintro ⟨findings, hfindings, rfl⟩
    rw [mapM_eq_ok_iff.mpr hfindings]
    rfl

theorem searchFor_fst {runtime : Runtime} {fileExists : String → Bool} {s : σ}
    {e : String × Requirement} {finding : String × Finding}
    (h : searchFor invoker runtime fileExists s e = .ok finding) : finding.1 = e.1 := by
  rw [searchFor] at h
  cases hpresent : (e.2.isPresent invoker runtime (fun _ => fileExists) ⟨s, {}⟩).result with
  | error e =>
    rw [hpresent] at h
    cases h
  | ok present =>
    rw [hpresent] at h
    cases h
    rfl

/-- If all searches for requirements come to an end, so do those for some of them. -/
theorem map_searchFor_filter {runtime : Runtime} {fileExists : String → Bool} {s : σ}
    {requirements : List (String × Requirement)} {findings : List (String × Finding)}
    (h : requirements.map (searchFor invoker runtime fileExists s) = findings.map .ok)
    (keep : String → Bool) :
    (requirements.filter fun e => keep e.1).map (searchFor invoker runtime fileExists s) =
      (findings.filter fun e => keep e.1).map .ok := by
  induction requirements generalizing findings with
  | nil =>
    cases findings with
    | nil => rfl
    | cons => cases h
  | cons e requirements ih =>
    cases findings with
    | nil => cases h
    | cons finding findings =>
      obtain ⟨hhead, hrest⟩ := List.cons.inj h
      rw [List.filter_cons, List.filter_cons, searchFor_fst hhead]
      split
      · rw [List.map_cons, List.map_cons, hhead, ih hrest]
      · exact ih hrest

variable {plan kept : Plan} {names : List String}

/-- A narrowed plan depends on no other requirements. -/
theorem Plan.needs_of_retain (h : plan.retain names = .ok kept) {requirement : String}
    (hneeds : kept.needs requirement = true) : plan.needs requirement = true := by
  rw [Plan.needs, routines_retain h, List.any_filter, List.any_eq_true] at hneeds
  rw [Plan.needs, List.any_eq_true]
  obtain ⟨routine, hr, hkeeps⟩ := hneeds
  exact ⟨routine, hr, (Bool.and_eq_true_iff.mp hkeeps).2⟩

/-- The search for the requirements of a narrowed plan finds that the same routines have what they
require. -/
theorem detect_retain (h : invoker.Stateless) (hkept : plan.retain names = .ok kept)
    {fileExists : String → Bool} {state : SessionState σ} {capabilities : Capabilities}
    (hdetect : (detect plan invoker (fun _ => fileExists) state).result = .ok capabilities)
    (state' : SessionState σ) :
    ∃ capabilities', (detect kept invoker (fun _ => fileExists) state').result =
        .ok capabilities' ∧
      ∀ routine ∈ kept.routines, capabilities'.allows routine = capabilities.allows routine := by
  obtain ⟨findings, hfindings, rfl⟩ := (detect_eq_ok_iff h (s := state.invoker)).mp hdetect
  have hruntime : kept.runtime = plan.runtime ∧ kept.optional = plan.optional := by
    obtain ⟨-, rfl⟩ := Plan.retain_eq_ok_iff.mp hkept
    exact ⟨rfl, rfl⟩
  -- What the narrowed plan looks for is what it needs of what the whole plan looks for.
  have hentries : kept.optional.entries.filter (fun e => kept.needs e.1) =
      (plan.optional.entries.filter fun e => plan.needs e.1).filter fun e => kept.needs e.1 := by
    rw [hruntime.2, List.filter_filter]
    refine List.filter_congr fun e _ => ?_
    cases hneeds : kept.needs e.1 with
    | false => rfl
    | true => rw [Plan.needs_of_retain hkept hneeds, Bool.and_self]
  refine ⟨_, (detect_eq_ok_iff h (s := state.invoker)).mpr
    ⟨findings.filter fun e => kept.needs e.1, ?_, rfl⟩, fun routine hr => ?_⟩
  · rw [hentries, hruntime.1]
    exact map_searchFor_filter hfindings kept.needs
  · cases hrequires : routine.requires with
    | none => rw [Capabilities.allows, Capabilities.allows, hrequires]
    | some requirement =>
      have hneeds : kept.needs requirement = true :=
        List.any_eq_true.mpr ⟨routine, hr, by rw [hrequires, decide_eq_true rfl]⟩
      rw [Capabilities.allows, Capabilities.allows, hrequires]
      simp only [Capabilities.has, Capabilities.get?_recordAll]
      rw [lastValue_filter hneeds]

/-! ### The run of a narrowed plan -/

namespace Bench

variable {b : Bench σ} {steps : List b.Step}

/-- The cells that were measured for the routines of a narrowed plan. -/
def keptOf (names : List String) (steps : List b.Step) : List b.Finished :=
  (finishedOf steps).filter fun f => names.contains f.cell.routine

/-- What a narrowed plan measures are the cells that were measured for its routines. -/
theorem cells_keptOf (hplan : b.plan.Accepted)
    (htasks : b.plan.tasks b.capabilities = steps.map Step.task)
    (hkept : b.plan.retain names = .ok kept) {capabilities : Capabilities}
    (hallows : ∀ routine ∈ kept.routines,
      capabilities.allows routine = b.capabilities.allows routine) :
    (kept.tasks capabilities).filterMap RunTask.cell? =
      (keptOf names steps).map fun f => (f.rounds.restart 0 f.start).cell := by
  have hcells : b.plan.cells b.capabilities = (finishedOf steps).map Finished.cell := by
    rw [← b.plan.filterMap_cell?_tasks, htasks, map_cell_finishedOf]
  rw [kept.filterMap_cell?_tasks, Plan.cells_retain hkept hallows, hcells, List.filter_map]
  refine List.map_congr_left fun f hf => ?_
  have hmem : f.cell ∈ (b.plan.tasks b.capabilities).filterMap RunTask.cell? := by
    rw [b.plan.filterMap_cell?_tasks, hcells]
    exact List.mem_map_of_mem (List.mem_filter.mp hf).1
  have hcount : doubledTimes f.cell.count 0 = f.cell.count :=
    doubledTimes_zero ((hplan.ready b.capabilities).count_le f.cell hmem)
  show f.cell = { f.cell with count := doubledTimes f.cell.count 0 }
  rw [hcount]

/-- A narrowed plan gives the same verdicts on its routines. -/
theorem judge_retain (hplan : b.plan.Accepted)
    (htasks : b.plan.tasks b.capabilities = steps.map Step.task)
    (hkept : b.plan.retain names = .ok kept) {f : b.Finished} (hf : f ∈ keptOf names steps) :
    kept.judge f.key f.measured = b.plan.judge f.key f.measured := by
  obtain ⟨hf, hname⟩ := List.mem_filter.mp hf
  obtain ⟨routine, hr, -, place, size, hsize, hkey⟩ := exists_routine_of_mem_finishedOf htasks hf
  have hroutine : f.cell.routine = routine.name := congrArg Prod.fst hkey
  have hr' : routine ∈ kept.routines := by
    rw [Plan.routines_retain hkept, List.mem_filter, ← hroutine]
    exact ⟨hr, hname⟩
  have hexpected := hplan.wellFormed.expectedTable_retain hkept hr' (List.mem_of_getElem? hsize)
  rw [Plan.judge, Plan.judge, hkey, ExpectedTable.check, ExpectedTable.check, hexpected]

/-- The matrix of a history, restricted to the routines of a narrowed plan. -/
theorem restrict_foldl_enter (hplan : b.plan.Accepted)
    (htasks : b.plan.tasks b.capabilities = steps.map Step.task)
    (hkept : b.plan.retain names = .ok kept) :
    (steps.foldl Step.enter {}).restrict names.contains =
      ((keptOf names steps).map fun f => (f.key, kept.judge f.key f.measured)).foldl
        (fun matrix e => matrix.insert e.1.1 e.1.2 e.2) {} := by
  have hrestrict := restrict_foldl (ResultsMatrix.restrict names.contains)
    (fun matrix (e : (String × Nat) × CellResult) =>
      ResultsMatrix.restrict_insert names.contains matrix e.1.1 e.1.2 e.2)
    ((finishedOf steps).map fun f => (f.key, b.plan.judge f.key f.measured)) {}
  have hjudge : (keptOf names steps).map (fun f => (f.key, kept.judge f.key f.measured)) =
      (keptOf names steps).map fun f => (f.key, b.plan.judge f.key f.measured) :=
    List.map_congr_left fun f hf => by rw [judge_retain hplan htasks hkept hf]
  rw [foldl_enter_eq, hrestrict, List.filter_map, hjudge]
  rfl

end Bench

variable {settings : Settings} {capabilities capabilities' : Capabilities}

/-- A narrowed plan is measured in its routines just like the whole plan. -/
theorem run_retain (hplan : plan.Accepted) (h : invoker.Stateless)
    (hkept : plan.retain names = .ok kept)
    (hallows : ∀ routine ∈ kept.routines,
      capabilities'.allows routine = capabilities.allows routine) {s : σ} {report : RunReport}
    (hreport : (run plan invoker capabilities settings (plan.start s)).result = .ok report)
    (s' : σ) :
    let full := run plan invoker capabilities settings (plan.start s)
    let narrowed := run kept invoker capabilities' settings (kept.start s')
    narrowed.result =
      .ok { initTime := report.initTime, matrix := report.matrix.restrict names.contains } ∧
    narrowed.state.table = full.state.table.restrict names.contains := by
  have hcourse := run_course invoker settings capabilities hplan s
  simp only [hreport] at hcourse
  obtain ⟨-, steps, htasks, hmatrix, htable, -⟩ := hcourse.exists_steps
  let b : Bench σ := ⟨plan, invoker, capabilities, settings, report.initTime⟩
  let b' : Bench σ := ⟨kept, invoker, capabilities', settings, report.initTime⟩
  have hkept' : kept.Accepted := hplan.retain hkept
  have hruntime : kept.runtime = plan.runtime := by
    obtain ⟨-, rfl⟩ := Plan.retain_eq_ok_iff.mp hkept
    rfl
  have hrounds : b'.rounds = b.rounds := by
    funext cell start
    show Rounds.mk invoker kept.runtime settings report.initTime cell start = _
    rw [hruntime]
    rfl
  have hcalibrate : (calibrate invoker kept.runtime settings (kept.start s')).result =
      .ok report.initTime := by
    rw [hruntime, calibrate_result_eq h _ _ _ (plan.start s)]
    exact calibrate_of_run_eq_ok hreport
  obtain ⟨-, steps', -, -, hmap, hresult, htable', -⟩ :=
    b.run_replay b' h hrounds hkept'.wellFormed hcalibrate (fun f => Nat.zero_le f.last)
      (hkept'.ready capabilities') rfl (b.cells_keptOf hplan htasks hkept hallows) rfl
  refine ⟨hresult.trans ?_, htable'.trans ?_⟩
  · have hcells := congrArg (List.map fun e => (e.1, kept.judge e.1 e.2.2)) hmap
    simp only [List.map_map, Function.comp_def] at hcells
    rw [hmatrix, b.restrict_foldl_enter hplan htasks hkept, Bench.foldl_enter_eq, hcells]
  · have hdoublings := congrArg (List.map fun e => (e.1, e.2.1)) hmap
    simp only [List.map_map, Function.comp_def, Nat.sub_zero] at hdoublings
    rw [htable, Bench.foldl_write, Bench.foldl_write, IterationTable.restrict_doubleAll,
      ← Plan.iterationTable_retain hkept, Bench.doublings, hdoublings, Bench.doublings,
      List.filter_map]
    rfl

variable (settings) in
/-- The search for requirements does not change the table with which a run starts. -/
theorem benchmark_of_detect {fileExists : String → Bool} {s : σ}
    (hdetect : (detect plan invoker (fun _ => fileExists) (plan.start s)).result =
      .ok capabilities) :
    ∃ s', let outcome := run plan invoker capabilities settings (plan.start s')
      (benchmark plan invoker (fun _ => fileExists) settings (plan.start s)).result =
        outcome.result ∧
      (benchmark plan invoker (fun _ => fileExists) settings (plan.start s)).state =
        outcome.state := by
  refine ⟨(detect plan invoker (fun _ => fileExists) (plan.start s)).state.invoker, ?_⟩
  rw [benchmark, Session.bind_of_ok _ hdetect, ← state_detect]
  exact ⟨rfl, rfl⟩

/-- **Narrowing and measuring.** If the requirements of an accepted plan are found and its run
finishes, and the invoker remembers nothing, then the same holds of the plan narrowed to any of its
routines. The startup overhead is the same, the matrix has the rows of these routines as they were,
and the table that is left behind has their counts. -/
theorem benchmark_retain (hplan : plan.Accepted) (hstateless : invoker.Stateless)
    (hnames : ∀ name ∈ names, plan.hasRoutine name = true) (fileExists : String → Bool) (s' : σ)
    {s : σ} {full : Outcome σ RunReport} {report : RunReport}
    (hfull : benchmark plan invoker (fun _ => fileExists) settings (plan.start s) = full)
    (hreport : full.result = .ok report) :
    ∃ kept, plan.retain names = .ok kept ∧
      let narrowed := benchmark kept invoker (fun _ => fileExists) settings (kept.start s')
      ∃ report', narrowed.result = .ok report' ∧ report'.initTime = report.initTime ∧
        report'.matrix.rows = report.matrix.rows.filter (fun row => names.contains row.1) ∧
        narrowed.state.table = full.state.table.restrict names.contains := by
  subst hfull
  have hkept := Plan.retain_eq_ok_iff.mpr ⟨hnames, rfl⟩
  refine ⟨_, hkept, ?_⟩
  cases hdetect : (detect plan invoker (fun _ => fileExists) (plan.start s)).result with
  | error e =>
    rw [benchmark, Session.bind_of_error _ hdetect] at hreport
    cases hreport
  | ok capabilities =>
    obtain ⟨capabilities', hdetect', hallows⟩ := detect_retain hstateless hkept hdetect
      (Plan.start _ s')
    obtain ⟨s₁, hresult, hstate⟩ := benchmark_of_detect settings hdetect
    obtain ⟨s₂, hresult', hstate'⟩ := benchmark_of_detect settings hdetect'
    rw [hresult] at hreport
    obtain ⟨hnarrowed, htable⟩ := run_retain hplan hstateless hkept hallows hreport s₂
    exact ⟨_, hresult'.trans hnarrowed, rfl, rfl, by rw [hstate, hstate', htable]⟩

/-- A plan with two routines, of which one depends on a file. -/
def pairPlan : Plan where
  sizes := [8]
  runtime := { program := "m" }
  optional := .ofList [("x", { file := some "p", hint := "h" })]
  routines := [{ name := "a", requires := some "x", iterations := [2] },
    { name := "b", iterations := [1] }]

/-- The text of the plan with two routines. -/
def pairText : String :=
  "sizes=[8]\n[runtime]\nprogram=\"m\"\n[optional.x]\nfile=\"p\"\nhint=\"h\"\n" ++
    "[[routine]]\nname=\"a\"\nrequires=\"x\"\niterations=[2]\n" ++
    "[[routine]]\nname=\"b\"\niterations=[1]\n"

theorem pairPlan_accepted : pairPlan.Accepted := by
  have htext : (Plan.ofText pairText).toOption = some pairPlan := by decide +kernel
  exact .of_toOption htext

/-- The plan with two routines narrowed to the second one, whose count has to be doubled. -/
theorem benchmark_retain_pairPlan :
    let settings : Settings := { repetitions := 1, maxDoublings := 1 }
    let full := benchmark pairPlan sampleInvoker (fun _ _ => true) settings (pairPlan.start ())
    ∃ kept, pairPlan.retain ["b", "b"] = .ok kept ∧
      let narrowed := benchmark kept sampleInvoker (fun _ _ => true) settings (kept.start ())
      ∃ report', narrowed.result = .ok report' ∧
        report'.matrix.rows.map Prod.fst = ["b"] ∧
        narrowed.state.table = full.state.table.restrict ["b", "b"].contains := by
  intro settings full
  have hfull : benchmark pairPlan sampleInvoker (fun _ _ => true) settings (pairPlan.start ()) =
      full := rfl
  have hrows : full.result.toOption.map (fun report => report.matrix.rows.map Prod.fst) =
      some ["a", "b"] := by decide +kernel
  have hstateless : sampleInvoker.Stateless := fun _ _ _ => rfl
  have hknown : ∀ name ∈ ["b", "b"], pairPlan.hasRoutine name = true := by decide
  cases hreport : full.result with
  | error e =>
    rw [hreport] at hrows
    cases hrows
  | ok report =>
    have hnames : report.matrix.rows.map Prod.fst = ["a", "b"] := by
      rw [hreport] at hrows
      exact Option.some.inj hrows
    obtain ⟨kept, hkept, report', hresult, -, hfilter, htable⟩ :=
      benchmark_retain pairPlan_accepted hstateless hknown (fun _ => true) () hfull hreport
    refine ⟨kept, hkept, report', hresult, ?_, htable⟩
    have hfilter' := List.filter_map (f := Prod.fst) (p := ["b", "b"].contains)
      (l := report.matrix.rows)
    rw [hnames] at hfilter'
    rw [hfilter]
    exact hfilter'.symm

end RoutineTiming
