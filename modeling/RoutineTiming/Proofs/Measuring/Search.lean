import RoutineTiming.Proofs.ByteOrder
import RoutineTiming.Proofs.Measuring.FailStop
import RoutineTiming.Proofs.Measuring.FinishedRun

/-!
# The search for requirements

A search comes to requirements one after the other and launches the probes of those that have one.
The invoker may remember earlier probes, so that a requirement is present or not in the state in
which the search comes to it. The first faulty answer of a probe ends the search; a search that
comes to its end has found just the requirements that were present then.

## Main definitions

* `Plan.needed` : the requirements that routines of a plan depend on.
* `Runtime.probeCalls` : the launches of the probes of requirements.
* `Requirement.PresentIn` : a requirement is present in a state.
* `Finds` : a requirement is present when the search comes to it.

## Main results

* `Plan.mem_needed_iff`, `Plan.pairwise_needed` : what a plan depends on, and in which order.
* `isPresent_spec`, `lookFor_cons` : the search for one requirement.
* `state_detect` : a search leaves the counts alone.
* `lookFor_of_error`, `lookFor_of_ok`, `calls_lookFor_prefix` : the launches of a search.
* `get?_of_lookFor` : what a search finds.
-/

namespace RoutineTiming

/-! ### The value that a probe prints -/

theorem value_of_parse {routine stdout : String} {output : RoutineOutput}
    (h : RoutineOutput.parse routine stdout = .ok output) :
    output.value = (valueLine? stdout).getD "" := by
  have hlines {timing : String} {earlier : List String}
      (h : RoutineOutput.ofLines routine timing earlier = .ok output) :
      output.value = (earlier.head?.map dropReturns).getD "" := by
    rw [RoutineOutput.ofLines] at h
    split at h
    · cases h
    · split at h <;> rw [← Except.ok.inj h] <;> rfl
  rw [RoutineOutput.parse] at h
  rw [valueLine?]
  split at h
  · next hnil => rw [hlines h, hnil]; rfl
  · next timing earlier hcons =>
    rw [hlines h, hcons, List.getElem?_cons_succ, List.head?_eq_getElem?]

/-- A probe finds its requirement if the value that it prints is `1`. -/
theorem finding_eq_ok {probe : String} {invocation : Invocation} {present : Bool}
    (h : invocation.finding probe = .ok present) :
    present = true ↔ ∃ line, valueLine? invocation.stdout = some line ∧ trim line = "1" := by
  rw [Invocation.finding] at h
  split at h
  · cases h
  · obtain ⟨output, hparse, hvalue⟩ := bind_eq_ok_iff.mp h
    rw [← Except.ok.inj hvalue, decide_eq_true_iff, value_of_parse hparse]
    cases valueLine? invocation.stdout with
    | none =>
      have hempty : trim "" ≠ "1" := by decide
      simp [hempty]
    | some line => simp

/-! ### Requirements -/

/-- The requirements that routines of a plan depend on, in the order of their names. -/
def Plan.needed (plan : Plan) : List (String × Requirement) :=
  plan.optional.entries.filter fun e => plan.needs e.1

/-- The launches of the probes of requirements, in their order. -/
def Runtime.probeCalls (runtime : Runtime) (requirements : List (String × Requirement)) :
    List (List String) :=
  requirements.filterMap fun e => e.2.probe.map fun probe => [runtime.entryFor probe, "0", "1"]

theorem Runtime.probeCalls_cons (runtime : Runtime) (e : String × Requirement)
    (requirements : List (String × Requirement)) :
    runtime.probeCalls (e :: requirements) =
      runtime.probeCalls [e] ++ runtime.probeCalls requirements :=
  List.filterMap_append (l := [e])

theorem Runtime.probeCalls_of_probe (runtime : Runtime) {e : String × Requirement} {probe : String}
    (h : e.2.probe = some probe) :
    runtime.probeCalls [e] = [[runtime.entryFor probe, "0", "1"]] := by
  rw [probeCalls, List.filterMap_cons, h]
  rfl

namespace Plan

variable {plan : Plan}

/-- A routine of the plan depends on a requirement that is needed. -/
theorem needs_iff {name : String} :
    plan.needs name = true ↔ ∃ routine ∈ plan.routines, routine.requires = some name := by
  simp [needs]

theorem mem_needed_iff {name : String} {requirement : Requirement} :
    (name, requirement) ∈ plan.needed ↔ plan.optional.get? name = some requirement ∧
      ∃ routine ∈ plan.routines, routine.requires = some name := by
  rw [needed, List.mem_filter, OrderedMap.mem_entries_iff, needs_iff]

theorem pairwise_needed (plan : Plan) :
    plan.needed.Pairwise fun e e' => utf8Bytes e.1 < utf8Bytes e'.1 :=
  (plan.optional.ascending.filter _).imp compare_eq_lt_iff_utf8Bytes.mp

theorem nodup_needed (plan : Plan) : (plan.needed.map Prod.fst).Nodup := by
  refine List.pairwise_map.mpr (plan.pairwise_needed.imp fun {e e'} hlt heq => ?_)
  rw [heq] at hlt
  exact List.lt_irrefl _ hlt

/-- A well-formed plan says of all that its routines depend on how to find it. -/
theorem WellFormed.exists_mem_needed (hplan : plan.WellFormed) {name : String}
    (h : plan.needs name = true) : ∃ requirement, (name, requirement) ∈ plan.needed := by
  obtain ⟨routine, hr, hrequires⟩ := needs_iff.mp h
  obtain ⟨requirement, hrequirement⟩ :=
    Option.isSome_iff_exists.mp (hplan.requirement_known routine hr name hrequires)
  exact ⟨requirement, mem_needed_iff.mpr ⟨hrequirement, routine, hr, hrequires⟩⟩

end Plan

section Search

variable {σ : Type} (invoker : Invoker σ) (runtime : Runtime) (fileExists : σ → String → Bool)

/-- A requirement is present in a state of the invoker: its file exists, or its probe prints the
value `1`. -/
def Requirement.PresentIn (requirement : Requirement) (s : σ) : Prop :=
  (∃ path, requirement.file = some path ∧ fileExists s path = true) ∨
    ∃ probe invocation line, requirement.probe = some probe ∧
      (invoker [runtime.entryFor probe, "0", "1"] s).1 = .ok invocation ∧
      valueLine? invocation.stdout = some line ∧ trim line = "1"

/-- The search for requirements from a state on comes to one of the name, and it is present in the
state that the invoker is in then. -/
def Finds (requirements : List (String × Requirement)) (s : σ) (name : String) : Prop :=
  ∃ earlier requirement later, requirements = earlier ++ (name, requirement) :: later ∧
    requirement.PresentIn invoker runtime fileExists (invoker.after (runtime.probeCalls earlier) s)

variable {invoker runtime fileExists}

theorem finds_cons_iff {e : String × Requirement} {requirements : List (String × Requirement)}
    {s : σ} {name : String} :
    Finds invoker runtime fileExists (e :: requirements) s name ↔
      e.1 = name ∧ e.2.PresentIn invoker runtime fileExists s ∨
        Finds invoker runtime fileExists requirements
          (invoker.after (runtime.probeCalls [e]) s) name := by
  constructor
  · rintro ⟨earlier, requirement, later, hsplit, hpresent⟩
    cases earlier with
    | nil =>
      obtain ⟨rfl, rfl⟩ := List.cons.inj hsplit
      exact .inl ⟨rfl, hpresent⟩
    | cons e' earlier =>
      obtain ⟨rfl, hrest⟩ := List.cons.inj hsplit
      rw [runtime.probeCalls_cons, Invoker.after_append] at hpresent
      exact .inr ⟨earlier, requirement, later, hrest, hpresent⟩
  · rintro (⟨rfl, hpresent⟩ | ⟨earlier, requirement, later, rfl, hpresent⟩)
    · exact ⟨[], e.2, requirements, rfl, hpresent⟩
    · refine ⟨e :: earlier, requirement, later, rfl, ?_⟩
      rwa [runtime.probeCalls_cons, Invoker.after_append]

theorem Finds.mem {requirements : List (String × Requirement)} {s : σ} {name : String}
    (h : Finds invoker runtime fileExists requirements s name) :
    name ∈ requirements.map Prod.fst := by
  obtain ⟨earlier, requirement, later, rfl, -⟩ := h
  exact List.mem_map_of_mem (List.mem_append_right earlier List.mem_cons_self)

variable (invoker runtime fileExists) in
/-- The search for a requirement launches its probe, if it has one, and finds whether it is present.
It fails only if the answer of the probe is faulty. -/
theorem isPresent_spec (name : String) {requirement : Requirement}
    (hone : requirement.file.isSome ≠ requirement.probe.isSome) (state : SessionState σ) :
    let outcome := requirement.isPresent invoker runtime fileExists state
    outcome.calls = runtime.probeCalls [(name, requirement)] ∧
    outcome.state = ⟨invoker.after outcome.calls state.invoker, state.table⟩ ∧
    (∀ present, outcome.result = .ok present →
      (present = true ↔ requirement.PresentIn invoker runtime fileExists state.invoker)) ∧
    ∀ e, outcome.result = .error e → ∃ probe, requirement.probe = some probe ∧
      Fault runtime (.probe probe) (invoker [runtime.entryFor probe, "0", "1"] state.invoker).1
        e := by
  rcases requirement with ⟨_ | path, _ | probe, hint⟩
  · exact absurd rfl hone
  · have happly : Requirement.isPresent ⟨none, some probe, hint⟩ invoker runtime fileExists state =
        Session.examine invoker runtime (.probe probe) (Invocation.finding probe) state :=
      congrFun (runProbe_eq_examine invoker runtime probe) state
    rw [happly, Session.examine_apply]
    refine ⟨rfl, rfl, fun present hpresent => ?_,
      fun e he => ⟨probe, rfl, finding_eq_error_iff.mp he⟩⟩
    obtain ⟨invocation, hanswer, hfinding⟩ := bind_eq_ok_iff.mp hpresent
    have hanswer : (invoker [runtime.entryFor probe, "0", "1"] state.invoker).1 = .ok invocation :=
      hanswer
    rw [finding_eq_ok hfinding]
    simp [Requirement.PresentIn, hanswer]
  · refine ⟨rfl, rfl, fun present hpresent => ?_, fun e he => nomatch he⟩
    rw [← Except.ok.inj hpresent]
    simp [Requirement.PresentIn]
  · exact absurd rfl hone

variable (invoker runtime fileExists) in
/-- The search for a requirement leaves the counts alone. -/
theorem table_isPresent (requirement : Requirement) (state : SessionState σ) :
    (requirement.isPresent invoker runtime fileExists state).state.table = state.table := by
  rcases requirement with ⟨_ | path, _ | probe, hint⟩
  · rfl
  · show (runProbe invoker runtime probe state).state.table = state.table
    rw [runProbe_eq_examine, Session.examine_apply]
  · rfl
  · rfl

theorem table_lookFor (requirements : List (String × Requirement)) (found : Capabilities)
    (state : SessionState σ) :
    (lookFor invoker runtime fileExists requirements found state).state.table = state.table := by
  induction requirements generalizing found state with
  | nil => rfl
  | cons entry rest ih =>
    have hfirst := table_isPresent invoker runtime fileExists entry.2 state
    rw [lookFor]
    rcases Session.bind_cases (entry.2.isPresent invoker runtime fileExists) _ state with
      ⟨e, -, heq⟩ | ⟨present, -, heq⟩
    · rw [heq]
      exact hfirst
    · rw [heq]
      exact (ih _ _).trans hfirst

variable (invoker fileExists) in
/-- After the search for the requirements of a plan, its counts are those that a run starts with. -/
theorem state_detect (plan : Plan) (s : σ) :
    let state := (detect plan invoker fileExists (plan.start s)).state
    state = plan.start state.invoker := by
  intro state
  have htable : state.table = plan.iterationTable := table_lookFor _ _ _
  rw [Plan.start, ← htable]

/-- The search goes on after a requirement that it has come to an end with. -/
theorem lookFor_cons (name : String) {requirement : Requirement}
    (hone : requirement.file.isSome ≠ requirement.probe.isSome)
    (rest : List (String × Requirement)) (found : Capabilities) (state : SessionState σ) :
    let outcome := lookFor invoker runtime fileExists ((name, requirement) :: rest) found state
    let call := runtime.probeCalls [(name, requirement)]
    (∃ probe e, requirement.probe = some probe ∧ outcome.result = .error e ∧
      outcome.calls = call ∧ Fault runtime (.probe probe)
        (invoker [runtime.entryFor probe, "0", "1"] state.invoker).1 e) ∨
    ∃ present : Bool,
      (present = true ↔ requirement.PresentIn invoker runtime fileExists state.invoker) ∧
      let finding := if present then Finding.present else .missing requirement.hint
      let later := lookFor invoker runtime fileExists rest (found.record name finding)
        ⟨invoker.after call state.invoker, state.table⟩
      outcome.result = later.result ∧ outcome.calls = call ++ later.calls ∧
        outcome.state = later.state := by
  obtain ⟨hcalls, hstate, hpresent, herror⟩ := isPresent_spec invoker runtime fileExists name
    hone state
  rw [hcalls] at hstate
  rw [lookFor]
  rcases Session.bind_cases (requirement.isPresent invoker runtime fileExists) _ state with
    ⟨e, he, heq⟩ | ⟨present, hok, heq⟩
  · obtain ⟨probe, hprobe, hfault⟩ := herror e he
    rw [heq]
    exact .inl ⟨probe, e, hprobe, rfl, hcalls, hfault⟩
  · rw [heq, hstate]
    refine .inr ⟨present, hpresent present hok, rfl, ?_, rfl⟩
    rw [← hcalls]
    exact List.filterMap_append

/-- A search that fails has come to a requirement whose probe gives a faulty answer, after it has
launched the earlier probes. -/
theorem lookFor_of_error {requirements : List (String × Requirement)}
    (hone : ∀ e ∈ requirements, e.2.file.isSome ≠ e.2.probe.isSome) {found : Capabilities}
    {state : SessionState σ} {e : BenchError}
    (h : (lookFor invoker runtime fileExists requirements found state).result = .error e) :
    ∃ earlier name requirement later probe,
      requirements = earlier ++ (name, requirement) :: later ∧ requirement.probe = some probe ∧
      (lookFor invoker runtime fileExists requirements found state).calls =
        runtime.probeCalls earlier ++ [[runtime.entryFor probe, "0", "1"]] ∧
      Fault runtime (.probe probe) (invoker [runtime.entryFor probe, "0", "1"]
        (invoker.after (runtime.probeCalls earlier) state.invoker)).1 e := by
  induction requirements generalizing found state with
  | nil => cases h
  | cons entry rest ih =>
    obtain ⟨name, requirement⟩ := entry
    obtain ⟨hfirst, hrest⟩ := List.forall_mem_cons.mp hone
    rcases lookFor_cons name hfirst rest found state with
      ⟨probe, e', hprobe, hresult, hcalls, hfault⟩ | ⟨present, -, hresult, hcalls, -⟩
    · rw [hresult] at h
      rw [Except.error.inj h] at hfault
      refine ⟨[], name, requirement, rest, probe, rfl, hprobe, hcalls.trans ?_, hfault⟩
      exact runtime.probeCalls_of_probe hprobe
    · rw [hresult] at h
      obtain ⟨earlier, name', requirement', later, probe, hsplit, hprobe, hlater, hfault⟩ :=
        ih hrest h
      refine ⟨(name, requirement) :: earlier, name', requirement', later, probe, ?_, hprobe, ?_, ?_⟩
      · rw [hsplit, List.cons_append]
      · rw [hcalls, hlater, runtime.probeCalls_cons _ earlier, List.append_assoc]
      · rwa [runtime.probeCalls_cons, Invoker.after_append]

/-- A search that comes to its end has launched all probes. -/
theorem lookFor_of_ok {requirements : List (String × Requirement)}
    (hone : ∀ e ∈ requirements, e.2.file.isSome ≠ e.2.probe.isSome)
    {found capabilities : Capabilities} {state : SessionState σ}
    (h : (lookFor invoker runtime fileExists requirements found state).result = .ok capabilities) :
    (lookFor invoker runtime fileExists requirements found state).calls =
      runtime.probeCalls requirements := by
  induction requirements generalizing found state with
  | nil => rfl
  | cons entry rest ih =>
    obtain ⟨hfirst, hrest⟩ := List.forall_mem_cons.mp hone
    rcases lookFor_cons entry.1 hfirst rest found state with
      ⟨-, e, -, hresult, -⟩ | ⟨present, -, hresult, hcalls, -⟩
    · rw [hresult] at h
      cases h
    · rw [hresult] at h
      rw [hcalls, ih hrest h, ← runtime.probeCalls_cons]

/-- A search launches the probes in order, up to some point. -/
theorem calls_lookFor_prefix {requirements : List (String × Requirement)}
    (hone : ∀ e ∈ requirements, e.2.file.isSome ≠ e.2.probe.isSome) (found : Capabilities)
    (state : SessionState σ) :
    (lookFor invoker runtime fileExists requirements found state).calls <+:
      runtime.probeCalls requirements := by
  cases hresult : (lookFor invoker runtime fileExists requirements found state).result with
  | ok capabilities => exact ⟨[], (List.append_nil _).trans (lookFor_of_ok hone hresult)⟩
  | error e =>
    obtain ⟨earlier, name, requirement, later, probe, rfl, hprobe, hcalls, -⟩ :=
      lookFor_of_error hone hresult
    have hcall := runtime.probeCalls_of_probe (e := (name, requirement)) hprobe
    rw [hcalls, ← hcall, Runtime.probeCalls, Runtime.probeCalls, Runtime.probeCalls,
      ← List.filterMap_append]
    refine List.IsPrefix.filterMap _ ⟨later, ?_⟩
    rw [List.append_assoc, List.singleton_append]

/-- A search that comes to its end finds the requirements that are present when it comes to them,
and misses the others; what was found before is kept. -/
theorem get?_of_lookFor {requirements : List (String × Requirement)}
    (hone : ∀ e ∈ requirements, e.2.file.isSome ≠ e.2.probe.isSome)
    (hnodup : (requirements.map Prod.fst).Nodup) {found capabilities : Capabilities}
    {state : SessionState σ}
    (h : (lookFor invoker runtime fileExists requirements found state).result = .ok capabilities)
    (name : String) :
    (Finds invoker runtime fileExists requirements state.invoker name →
      capabilities.findings.get? name = some .present) ∧
    (∀ requirement, (name, requirement) ∈ requirements →
      ¬ Finds invoker runtime fileExists requirements state.invoker name →
        capabilities.findings.get? name = some (.missing requirement.hint)) ∧
    (name ∉ requirements.map Prod.fst →
      capabilities.findings.get? name = found.findings.get? name) := by
  induction requirements generalizing found state with
  | nil =>
    cases h
    exact ⟨fun hfinds => absurd hfinds.mem List.not_mem_nil,
      fun _ hmem => absurd hmem List.not_mem_nil, fun _ => rfl⟩
  | cons entry rest ih =>
    obtain ⟨first, requirement⟩ := entry
    obtain ⟨hfirst, hrest⟩ := List.forall_mem_cons.mp hone
    obtain ⟨hnew, hnodup⟩ := List.nodup_cons.mp hnodup
    rcases lookFor_cons first hfirst rest found state with
      ⟨-, e, -, hresult, -⟩ | ⟨present, hpresent, hresult, -⟩
    · rw [hresult] at h
      cases h
    · rw [hresult] at h
      obtain ⟨hfinds, hmisses, hkeeps⟩ := ih hrest hnodup h
      rw [Capabilities.get?_record] at hkeeps
      simp only [finds_cons_iff, not_or]
      by_cases hname : first = name
      · -- The first requirement is not looked for again.
        subst hname
        rw [if_pos rfl] at hkeeps
        rw [hkeeps hnew]
        have hlater : ¬ Finds invoker runtime fileExists rest
            (invoker.after (runtime.probeCalls [(first, requirement)]) state.invoker) first :=
          fun hlater => hnew hlater.mem
        refine ⟨?_, fun requirement' hmem hmisses => ?_, fun hmem => absurd List.mem_cons_self hmem⟩
        · rintro (⟨-, hfound⟩ | hfound)
          · rw [if_pos (hpresent.mpr hfound)]
          · exact absurd hfound hlater
        · have hsame : (first, requirement') = (first, requirement) :=
            (List.mem_cons.mp hmem).resolve_right fun hmem => hnew (List.mem_map.mpr ⟨_, hmem, rfl⟩)
          rw [if_neg fun hfound => hmisses.1 ⟨rfl, hpresent.mp hfound⟩, (Prod.mk.inj hsame).2]
      · rw [if_neg (Ne.symm hname)] at hkeeps
        refine ⟨?_, fun requirement' hmem hmissing => ?_, fun hmem => ?_⟩
        · rintro (⟨hfirst, -⟩ | hfound)
          · exact absurd hfirst hname
          · exact hfinds hfound
        · have hrest : (name, requirement') ∈ rest :=
            (List.mem_cons.mp hmem).resolve_left fun hsame => hname (Prod.mk.inj hsame).1.symm
          exact hmisses requirement' hrest hmissing.2
        · exact hkeeps fun hmem' => hmem (List.mem_cons_of_mem _ hmem')

end Search

end RoutineTiming
