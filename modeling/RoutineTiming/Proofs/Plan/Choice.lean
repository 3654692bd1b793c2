import RoutineTiming.Proofs.Attempts
import RoutineTiming.Proofs.Plan.WellFormed

/-!
# Choosing routines

A plan can be narrowed to some of its routines more than once, and it stays well formed. To choose
among the routines that were chosen before is to choose among all of them. An attempt to narrow the
plan at hand leaves it as it was if some name is not that of a routine.

## Main results

* `Plan.WellFormed.foldlM_retain` : plans that are narrowed any number of times.
* `Plan.retain_retain`, `Plan.retain_congr` : one choice behind another, and equal choices.
* `Plan.run_narrow` : narrowing the plan at hand, by the choice of its routines.
* `Plan.narrow_keeps_named` : the plan at hand after an attempt to narrow it.
-/

namespace RoutineTiming

namespace Plan

variable {plan kept : Plan} {names names' : List String}

theorem hasRoutine_iff {name : String} :
    plan.hasRoutine name = true ↔ ∃ routine ∈ plan.routines, routine.name = name := by
  simp [hasRoutine]

theorem hasRoutine_eq_false_iff {name : String} :
    plan.hasRoutine name = false ↔ ∀ routine ∈ plan.routines, routine.name ≠ name := by
  simp [hasRoutine]

/-! ### One choice behind another -/

/-- A plan stays well formed if it is narrowed any number of times. -/
theorem WellFormed.foldlM_retain {choices : List (List String)} (h : plan.WellFormed)
    (hkept : choices.foldlM Plan.retain plan = .ok kept) : kept.WellFormed := by
  induction choices generalizing plan with
  | nil =>
    cases hkept
    exact h
  | cons names choices ih =>
    rw [List.foldlM_cons] at hkept
    obtain ⟨next, hnext, hkept⟩ := bind_eq_ok_iff.mp hkept
    exact ih (h.retain hnext) hkept

/-- Names out of those that were chosen can be chosen again, with the same result as at first. -/
theorem retain_retain (h : plan.retain names = .ok kept) (hnames : names' ⊆ names) :
    ∃ kept', plan.retain names' = .ok kept' ∧ kept.retain names' = .ok kept' := by
  obtain ⟨hknown, hkept⟩ := retain_eq_ok_iff.mp h
  have hstill : ∀ name ∈ names', kept.hasRoutine name = true := by
    intro name hname
    obtain ⟨routine, hroutine, hrname⟩ := hasRoutine_iff.mp (hknown name (hnames hname))
    have hchosen : names.contains routine.name = true := by
      rw [hrname, List.contains_iff_mem]
      exact hnames hname
    rw [hkept]
    exact hasRoutine_iff.mpr ⟨routine, List.mem_filter.mpr ⟨hroutine, hchosen⟩, hrname⟩
  have hfilter : kept.routines.filter (fun routine => names'.contains routine.name) =
      plan.routines.filter fun routine => names'.contains routine.name := by
    rw [hkept, List.filter_filter]
    refine List.filter_congr fun routine _ => ?_
    rw [Bool.and_eq_left_iff_imp, List.contains_iff_mem, List.contains_iff_mem]
    exact fun hname => hnames hname
  refine ⟨_, retain_eq_ok_iff.mpr ⟨fun name hname => hknown name (hnames hname), rfl⟩,
    retain_eq_ok_iff.mpr ⟨hstill, ?_⟩⟩
  rw [hfilter, hkept]

/-- Neither the order nor the repetition of names matters to the plan that they choose. -/
theorem retain_congr (h : plan.retain names = .ok kept)
    (hnames : ∀ name, name ∈ names' ↔ name ∈ names) : plan.retain names' = .ok kept := by
  obtain ⟨hknown, rfl⟩ := retain_eq_ok_iff.mp h
  refine retain_eq_ok_iff.mpr ⟨fun name hname => hknown name ((hnames name).mp hname), ?_⟩
  congr 1
  refine List.filter_congr fun routine _ => ?_
  rw [Bool.eq_iff_iff, List.contains_iff_mem, List.contains_iff_mem, hnames]

/-! ### The plan at hand -/

/-- Narrowing the plan at hand is the choice of its routines, and an error leaves the plan. -/
theorem run_narrow : (narrow names).run plan =
    match plan.retain names with
    | .ok kept => (.ok (), kept)
    | .error e => (.error e, plan) := by
  simp only [narrow, retain, StateT.run_bind, StateT.run_get, pure_bind]
  cases names.find? fun name => !plan.hasRoutine name with
  | none => rfl
  | some name => rfl

theorem run_narrow_of_ok (h : plan.retain names = .ok kept) :
    (narrow names).run plan = (.ok (), kept) := by
  rw [run_narrow, h]

theorem run_narrow_of_error {e : BenchError} (h : plan.retain names = .error e) :
    (narrow names).run plan = (.error e, plan) := by
  rw [run_narrow, h]

/-- An attempt to narrow a plan gives the narrowed plan, or an error beside the same plan. -/
theorem run_narrow_cases {outcome : Except BenchError Unit} {after : Plan}
    (h : (narrow names).run plan = (outcome, after)) :
    (outcome = .ok () ∧ plan.retain names = .ok after) ∨
      ∃ e, outcome = .error e ∧ after = plan ∧ plan.retain names = .error e := by
  cases hretain : plan.retain names with
  | ok kept =>
    obtain ⟨rfl, rfl⟩ := Prod.mk.inj ((run_narrow_of_ok hretain).symm.trans h)
    exact .inl ⟨rfl, rfl⟩
  | error e =>
    obtain ⟨rfl, rfl⟩ := Prod.mk.inj ((run_narrow_of_error hretain).symm.trans h)
    exact .inr ⟨e, rfl, rfl, rfl⟩

/-- The same names in another order or number leave the same plan, and succeed together. -/
theorem run_narrow_congr {outcome outcome' : Except BenchError Unit} {after after' : Plan}
    (hnames : ∀ name, name ∈ names' ↔ name ∈ names)
    (h : (narrow names).run plan = (outcome, after))
    (h' : (narrow names').run plan = (outcome', after')) :
    after' = after ∧ (outcome' = .ok () ↔ outcome = .ok ()) := by
  rcases run_narrow_cases h with ⟨rfl, hok⟩ | ⟨e, rfl, rfl, herror⟩
  · have hsame := run_narrow_of_ok (retain_congr hok hnames)
    obtain ⟨rfl, rfl⟩ := Prod.mk.inj (h'.symm.trans hsame)
    exact ⟨rfl, Iff.rfl⟩
  · rcases run_narrow_cases h' with ⟨rfl, hok⟩ | ⟨e', rfl, rfl, -⟩
    · rw [retain_congr hok fun name => (hnames name).symm] at herror
      cases herror
    · exact ⟨rfl, by simp⟩

/-- Whether or not the names could be chosen, names out of them are chosen next as at first. -/
theorem run_narrow_after {outcome : Except BenchError Unit} {after : Plan}
    (h : (narrow names).run plan = (outcome, after)) (hnames : names' ⊆ names) :
    (narrow names').run after = (narrow names').run plan := by
  rcases run_narrow_cases h with ⟨-, hok⟩ | ⟨-, -, rfl, -⟩
  · obtain ⟨kept', hplan, hafter⟩ := retain_retain hok hnames
    rw [run_narrow_of_ok hplan, run_narrow_of_ok hafter]
  · rfl

/-- **Narrowing the plan at hand.** An attempt fails exactly if some name is not that of a routine:
the first such name is told, and the plan stays as it was. Otherwise the named routines are left in
the order of the plan, and nothing else changes. In either case the plan is still valid. Which plan
is left, and whether the attempt succeeds, depends on the set of names only; the same attempt made
once more changes nothing, and after it any of the names are chosen as if it had not been made. -/
theorem narrow_keeps_named {outcome : Except BenchError Unit} {after : Plan}
    (hplan : plan.validate = .ok ()) (h : (narrow names).run plan = (outcome, after)) :
    ((∃ e, outcome = .error e) ↔
      ∃ name ∈ names, ∀ routine ∈ plan.routines, routine.name ≠ name) ∧
    (∀ e, outcome = .error e → after = plan ∧
      ∃ known name rest, names = known ++ name :: rest ∧
        (∀ name ∈ known, ∃ routine ∈ plan.routines, routine.name = name) ∧
        (∀ routine ∈ plan.routines, routine.name ≠ name) ∧
        e = .planRefused (.unknownRoutine name) ∧
        ∀ textReport, e.message textReport =
          "Invalid benchmark plan: " ++ ("no routine named '" ++ name ++ "' in the plan")) ∧
    (outcome = .ok () → after =
      { plan with routines := plan.routines.filter fun routine => routine.name ∈ names }) ∧
    after.validate = .ok () ∧
    (∀ names' outcome' after', (∀ name, name ∈ names' ↔ name ∈ names) →
      (narrow names').run plan = (outcome', after') →
        after' = after ∧ (outcome' = .ok () ↔ outcome = .ok ())) ∧
    (narrow names).run after = (outcome, after) ∧
    ∀ names', names' ⊆ names → (narrow names').run after = (narrow names').run plan := by
  refine ⟨?_, fun e he => ?_, fun hok => ?_, ?_, fun names' outcome' after' hnames h' =>
    run_narrow_congr hnames h h', (run_narrow_after h (List.Subset.refl names)).trans h,
    fun names' hnames => run_narrow_after h hnames⟩
  · rcases run_narrow_cases h with ⟨rfl, hok⟩ | ⟨e, rfl, -, herror⟩
    · obtain ⟨hknown, -⟩ := retain_eq_ok_iff.mp hok
      refine ⟨fun ⟨_, he⟩ => (nomatch he), fun ⟨name, hname, hnone⟩ => ?_⟩
      have hsome := hknown name hname
      rw [hasRoutine_eq_false_iff.mpr hnone] at hsome
      cases hsome
    · obtain ⟨known, name, rest, hsplit, -, hnone, -⟩ := retain_eq_error_iff.mp herror
      have hmem : name ∈ names := hsplit ▸ List.mem_append_right _ List.mem_cons_self
      exact ⟨fun _ => ⟨name, hmem, hasRoutine_eq_false_iff.mp hnone⟩, fun _ => ⟨e, rfl⟩⟩
  · rcases run_narrow_cases h with ⟨rfl, -⟩ | ⟨e', rfl, hafter, herror⟩
    · cases he
    · cases he
      obtain ⟨known, name, rest, hsplit, hknown, hnone, rfl⟩ := retain_eq_error_iff.mp herror
      exact ⟨hafter, known, name, rest, hsplit, fun name hname =>
        hasRoutine_iff.mp (hknown name hname), hasRoutine_eq_false_iff.mp hnone, rfl, fun _ => rfl⟩
  · rcases run_narrow_cases h with ⟨-, hretain⟩ | ⟨_, rfl, -⟩
    · obtain ⟨-, rfl⟩ := retain_eq_ok_iff.mp hretain
      simp only [List.contains_eq_mem]
    · cases hok
  · rcases run_narrow_cases h with ⟨-, hretain⟩ | ⟨_, -, rfl, -⟩
    · exact validate_eq_ok_iff.mpr ((validate_eq_ok_iff.mp hplan).retain hretain)
    · exact hplan

end Plan

/-! ### A plan with three routines -/

/-- A routine of the family `f`. -/
def fRoutine (name : String) (iterations : List Nat) : Routine :=
  { name, family := some "f", iterations }

/-- A plan with three routines at two sizes, two of them of one family. -/
def triplePlan : Plan where
  sizes := [8, 9]
  runtime := { program := "m" }
  expected := .ofList [("f", ["8", "9"])]
  routines := [fRoutine "c" [1, 2], { name := "a", iterations := [3, 4] }, fRoutine "b" [5, 6]]

/-- A choice with an unknown name between known ones, and one with a repeated name behind which
another choice is made. -/
theorem narrow_triplePlan :
    (∃ routines, (Plan.narrow ["b", "c", "b"]).run triplePlan =
        (.ok (), { triplePlan with routines }) ∧
      routines.map Routine.name = ["c", "b"] ∧
      { triplePlan with routines }.validate = .ok () ∧
      (Plan.narrow ["b"]).run { triplePlan with routines } = (Plan.narrow ["b"]).run triplePlan) ∧
    (Plan.narrow ["a", "x", "b", "y"]).run triplePlan =
        (.error (.planRefused (.unknownRoutine "x")), triplePlan) ∧
      ∃ name ∈ ["a", "x", "b", "y"], ∀ routine ∈ triplePlan.routines, routine.name ≠ name := by
  have hvalid : triplePlan.validate = .ok () := rfl
  have hchosen : (Plan.narrow ["b", "c", "b"]).run triplePlan = (.ok (), { triplePlan with
      routines := [fRoutine "c" [1, 2], fRoutine "b" [5, 6]] }) := rfl
  have hunknown : (Plan.narrow ["a", "x", "b", "y"]).run triplePlan =
      (.error (.planRefused (.unknownRoutine "x")), triplePlan) := rfl
  obtain ⟨-, -, -, hstill, -, -, hnext⟩ := Plan.narrow_keeps_named hvalid hchosen
  obtain ⟨hfails, -⟩ := Plan.narrow_keeps_named hvalid hunknown
  exact ⟨⟨_, hchosen, rfl, hstill, hnext ["b"] (by decide)⟩, hunknown, hfails.mp ⟨_, rfl⟩⟩

end RoutineTiming
