import RoutineTiming.Plan.Validation

/-!
# Well-formed plans

The conditions under which a plan can be run, each as a statement about the plan. They hold exactly
when no fault is found (`Plan.faults_eq_nil_iff`), and they are kept when a plan is narrowed to some
of its routines (`Plan.WellFormed.retain`).

## Main definitions

* `Plan.WellFormed` : the conditions.

## Main results

* `Plan.faults_eq_nil_iff` : no fault is found in a plan exactly when it is well formed.
* `Plan.retain_eq_ok_iff`, `Plan.retain_eq_error_iff` : when a plan can be narrowed, and to what.
-/

namespace RoutineTiming

theorem ascends_iff (xs : List Nat) : ascends xs = true ↔ xs.Pairwise (· < ·) := by
  induction xs using ascends.induct with
  | case1 => simp [ascends]
  | case2 a => simp [ascends]
  | case3 a b rest ih =>
    rw [ascends, Bool.and_eq_true, decide_eq_true_eq, ih, List.pairwise_cons (a := a)]
    constructor
    · rintro ⟨hab, hrest⟩
      refine ⟨fun x hx => ?_, hrest⟩
      rcases List.mem_cons.mp hx with rfl | hx
      · exact hab
      · exact Nat.lt_trans hab ((List.pairwise_cons.mp hrest).1 x hx)
    · rintro ⟨hall, hrest⟩
      exact ⟨hall b List.mem_cons_self, hrest⟩

namespace Plan

variable (plan : Plan)

/-- The conditions under which a plan can be run. -/
structure WellFormed : Prop where
  sizes_ne_nil : plan.sizes ≠ []
  zero_notMem_sizes : 0 ∉ plan.sizes
  sizes_ascending : plan.sizes.Pairwise (· < ·)
  expected_length : ∀ e ∈ plan.expected.entries, e.2.length = plan.sizes.length
  one_check : ∀ e ∈ plan.optional.entries, e.2.file.isSome ≠ e.2.probe.isSome
  names_nodup : (plan.routines.map Routine.name).Nodup
  iterations_length : ∀ r ∈ plan.routines, r.iterations.length = plan.sizes.length
  zero_notMem_iterations : ∀ r ∈ plan.routines, 0 ∉ r.iterations
  family_known : ∀ r ∈ plan.routines, ∀ family ∈ r.family, plan.expected.contains family = true
  requirement_known :
    ∀ r ∈ plan.routines, ∀ name ∈ r.requires, plan.optional.contains name = true

/-! ### Plans without faults -/

theorem faultIf_eq_nil_iff (violated : Bool) (fault : PlanFault) :
    faultIf violated fault = [] ↔ violated = false := by
  cases violated <;> simp [faultIf]

theorem sizeFaults_eq_nil_iff :
    plan.sizeFaults = [] ↔
      plan.sizes ≠ [] ∧ 0 ∉ plan.sizes ∧ plan.sizes.Pairwise (· < ·) := by
  rw [sizeFaults, List.append_eq_nil_iff, List.append_eq_nil_iff, faultIf_eq_nil_iff,
    faultIf_eq_nil_iff, faultIf_eq_nil_iff, Bool.not_eq_false', ascends_iff, and_assoc]
  simp

/-- What the rest of a plan asks of a routine that has a name of its own. -/
structure Fits (routine : Routine) : Prop where
  iterations_length : routine.iterations.length = plan.sizes.length
  zero_notMem : 0 ∉ routine.iterations
  family_known : ∀ family ∈ routine.family, plan.expected.contains family = true
  requirement_known : ∀ name ∈ routine.requires, plan.optional.contains name = true

theorem routineFaults_eq_nil_iff (earlier : List String) (routine : Routine) :
    plan.routineFaults earlier routine = [] ↔
      routine.name ∉ earlier ∧ plan.Fits routine := by
  rw [routineFaults, List.append_eq_nil_iff, List.append_eq_nil_iff, List.append_eq_nil_iff,
    List.append_eq_nil_iff, faultIf_eq_nil_iff, faultIf_eq_nil_iff, faultIf_eq_nil_iff]
  constructor
  · rintro ⟨⟨⟨⟨hname, hlength⟩, hzero⟩, hfamily⟩, hrequires⟩
    refine ⟨by simpa using hname, by simpa using hlength, by simpa using hzero,
      fun family h => ?_, fun name h => ?_⟩
    · rw [Option.mem_def.mp h] at hfamily
      simpa [faultIf_eq_nil_iff] using hfamily
    · rw [Option.mem_def.mp h] at hrequires
      simpa [faultIf_eq_nil_iff] using hrequires
  · rintro ⟨hname, hlength, hzero, hfamily, hrequires⟩
    refine ⟨⟨⟨⟨by simpa using hname, by simpa using hlength⟩, by simpa using hzero⟩, ?_⟩, ?_⟩
    · split
      · next family h => simp [faultIf_eq_nil_iff, hfamily family h]
      · rfl
    · split
      · next name h => simp [faultIf_eq_nil_iff, hrequires name h]
      · rfl

theorem routinesFaults_eq_nil_iff (earlier : List String) (routines : List Routine) :
    plan.routinesFaults earlier routines = [] ↔
      (∀ r ∈ routines, r.name ∉ earlier ∧ plan.Fits r) ∧
        (routines.map Routine.name).Nodup := by
  induction routines generalizing earlier with
  | nil => simp [routinesFaults]
  | cons routine rest ih =>
    rw [routinesFaults, List.append_eq_nil_iff, routineFaults_eq_nil_iff, ih, List.map_cons,
      List.nodup_cons, List.forall_mem_cons]
    constructor
    · rintro ⟨hhead, hrest, hnodup⟩
      refine ⟨⟨hhead, fun r hr => ?_⟩, fun hmem => ?_, hnodup⟩
      · exact ⟨fun h => (hrest r hr).1 (List.mem_append_left _ h), (hrest r hr).2⟩
      · obtain ⟨r, hr, hname⟩ := List.mem_map.mp hmem
        exact (hrest r hr).1 (List.mem_append_right _ (by simp [hname]))
    · rintro ⟨⟨hhead, hrest⟩, hnew, hnodup⟩
      refine ⟨hhead, fun r hr => ⟨fun h => ?_, (hrest r hr).2⟩, hnodup⟩
      rcases List.mem_append.mp h with h | h
      · exact (hrest r hr).1 h
      · exact hnew (List.mem_map.mpr ⟨r, hr, List.mem_singleton.mp h⟩)

/-- No fault is found in a plan exactly when it is well formed. -/
theorem faults_eq_nil_iff : plan.faults = [] ↔ plan.WellFormed := by
  have hexpected : plan.expected.entries.flatMap
      (fun e => plan.familyFaults e.1 e.2) = [] ↔
        ∀ e ∈ plan.expected.entries, e.2.length = plan.sizes.length := by
    simp [List.flatMap_eq_nil_iff, familyFaults, faultIf_eq_nil_iff]
  have hoptional : plan.optional.entries.flatMap
      (fun e => requirementFaults e.1 e.2) = [] ↔
        ∀ e ∈ plan.optional.entries, e.2.file.isSome ≠ e.2.probe.isSome := by
    simp [List.flatMap_eq_nil_iff, requirementFaults, faultIf_eq_nil_iff]
  rw [faults, List.append_eq_nil_iff, List.append_eq_nil_iff, List.append_eq_nil_iff, hexpected,
    hoptional, sizeFaults_eq_nil_iff, routinesFaults_eq_nil_iff]
  constructor
  · rintro ⟨⟨⟨⟨hne, hzero, hasc⟩, hexpected⟩, hoptional⟩, hroutines, hnodup⟩
    exact ⟨hne, hzero, hasc, hexpected, hoptional, hnodup,
      fun r hr => (hroutines r hr).2.iterations_length, fun r hr => (hroutines r hr).2.zero_notMem,
      fun r hr => (hroutines r hr).2.family_known,
      fun r hr => (hroutines r hr).2.requirement_known⟩
  · intro h
    exact ⟨⟨⟨⟨h.sizes_ne_nil, h.zero_notMem_sizes, h.sizes_ascending⟩, h.expected_length⟩,
      h.one_check⟩, fun r hr => ⟨List.not_mem_nil, h.iterations_length r hr,
        h.zero_notMem_iterations r hr, h.family_known r hr, h.requirement_known r hr⟩,
      h.names_nodup⟩

variable {plan}

theorem validate_eq_ok_iff : plan.validate = .ok () ↔ plan.WellFormed := by
  rw [← faults_eq_nil_iff, validate]
  split
  · next h => simp [h]
  · next h => simp [h]

/-! ### Narrowed plans -/

/-- A plan can be narrowed to names of routines that it has; it then keeps just these routines. -/
theorem retain_eq_ok_iff {names : List String} {kept : Plan} :
    plan.retain names = .ok kept ↔ (∀ name ∈ names, plan.hasRoutine name = true) ∧
      kept = { plan with
        routines := plan.routines.filter fun routine => names.contains routine.name } := by
  unfold retain
  split
  · next name h =>
    have hname := List.find?_some h
    have hmem := List.mem_of_find?_eq_some h
    simp only [reduceCtorEq, false_iff, not_and]
    intro hall
    simp [hall name hmem] at hname
  · next h =>
    rw [List.find?_eq_none] at h
    simp only [Except.ok.injEq, eq_comm (a := kept), iff_and_self]
    intro _ name hname
    simpa using h name hname

/-- A plan cannot be narrowed if some name is not that of a routine; the first such name is told. -/
theorem retain_eq_error_iff {names : List String} {e : BenchError} :
    plan.retain names = .error e ↔ ∃ known name rest, names = known ++ name :: rest ∧
      (∀ name ∈ known, plan.hasRoutine name = true) ∧ plan.hasRoutine name = false ∧
      e = .planRefused (.unknownRoutine name) := by
  unfold retain
  constructor
  · split
    · next name hfind =>
      obtain ⟨hname, known, rest, hsplit, hknown⟩ := List.find?_eq_some_iff_append.mp hfind
      intro h
      refine ⟨known, name, rest, hsplit, fun name hmem => ?_, ?_, (Except.error.inj h).symm⟩
      · simpa using hknown name hmem
      · simpa using hname
    · rintro ⟨⟩
  · rintro ⟨known, name, rest, rfl, hknown, hname, rfl⟩
    have hfind : (known ++ name :: rest).find? (fun name => !plan.hasRoutine name) = some name :=
      List.find?_eq_some_iff_append.mpr
        ⟨by simpa using hname, known, rest, rfl, by simpa using hknown⟩
    rw [hfind]

theorem WellFormed.retain {names : List String} {kept : Plan} (h : plan.WellFormed)
    (hkept : plan.retain names = .ok kept) : kept.WellFormed := by
  obtain ⟨-, rfl⟩ := retain_eq_ok_iff.mp hkept
  have hmem {r : Routine} (hr : r ∈ plan.routines.filter fun r => names.contains r.name) :
      r ∈ plan.routines := (List.mem_filter.mp hr).1
  exact ⟨h.sizes_ne_nil, h.zero_notMem_sizes, h.sizes_ascending, h.expected_length, h.one_check,
    h.names_nodup.sublist ((List.filter_sublist).map _),
    fun r hr => h.iterations_length r (hmem hr), fun r hr => h.zero_notMem_iterations r (hmem hr),
    fun r hr => h.family_known r (hmem hr), fun r hr => h.requirement_known r (hmem hr)⟩

end Plan

end RoutineTiming
