import RoutineTiming.Proofs.Plan.Cells
import RoutineTiming.Proofs.Restriction

/-!
# Narrowed plans

A plan that is narrowed to some of its routines says of them what it said before. Its tables are
those of the whole plan, restricted to these routines, and so are its cells.

## Main results

* `Plan.iterationTable_retain` : the first iteration counts of a narrowed plan.
* `Plan.cells_retain` : the cells of a narrowed plan.
* `Plan.WellFormed.expectedTable_retain` : the expected values of a narrowed plan.
-/

namespace RoutineTiming

namespace Plan

variable {plan kept : Plan} {names : List String}

theorem routines_retain (h : plan.retain names = .ok kept) :
    kept.routines = plan.routines.filter fun routine => names.contains routine.name := by
  obtain ⟨-, rfl⟩ := retain_eq_ok_iff.mp h
  rfl

theorem cellsOf_retain (h : plan.retain names = .ok kept) (routine : Routine) :
    kept.cellsOf routine = plan.cellsOf routine := by
  obtain ⟨-, rfl⟩ := retain_eq_ok_iff.mp h
  rfl

variable (plan) in
/-- The cells of some routines, narrowed to names, are those of the routines with these names. -/
theorem filter_flatMap_cellsOf (keep : String → Bool) (routines : List Routine) :
    (routines.flatMap plan.cellsOf).filter (fun cell => keep cell.routine) =
      (routines.filter fun routine => keep routine.name).flatMap plan.cellsOf := by
  induction routines with
  | nil => rfl
  | cons routine routines ih =>
    have hkeep : ∀ cell ∈ plan.cellsOf routine, keep cell.routine = keep routine.name :=
      fun cell hcell => by rw [routine_of_mem_cellsOf hcell]
    rw [List.flatMap_cons, List.filter_append, ih, List.filter_cons]
    split
    · next h =>
      rw [List.flatMap_cons, List.filter_eq_self.mpr fun cell hcell => (hkeep cell hcell).trans h]
    · next h =>
      rw [List.filter_eq_nil_iff.mpr fun cell hcell => hkeep cell hcell ▸ h, List.nil_append]

/-- The first iteration counts of a narrowed plan. -/
theorem iterationTable_retain (h : plan.retain names = .ok kept) :
    kept.iterationTable = plan.iterationTable.restrict names.contains := by
  have hcells : kept.routines.flatMap kept.cellsOf =
      (plan.routines.flatMap plan.cellsOf).filter fun cell => names.contains cell.routine := by
    rw [filter_flatMap_cellsOf, ← routines_retain h]
    exact List.flatMap_congr fun routine _ => cellsOf_retain h routine
  have hrestrict := restrict_foldl (IterationTable.restrict names.contains)
    (fun table (e : (String × Nat) × Nat) =>
      IterationTable.restrict_set names.contains table e.1.1 e.1.2 e.2)
    ((plan.routines.flatMap plan.cellsOf).map fun c => (c.key, c.count)) {}
  rw [WellFormed.iterationTable_eq_foldl, WellFormed.iterationTable_eq_foldl, hrestrict, hcells,
    List.filter_map]
  rfl

/-- The cells of a narrowed plan, if the same requirements are present. -/
theorem cells_retain (h : plan.retain names = .ok kept) {capabilities capabilities' : Capabilities}
    (hallows : ∀ routine ∈ kept.routines,
      capabilities'.allows routine = capabilities.allows routine) :
    kept.cells capabilities' =
      (plan.cells capabilities).filter fun cell => names.contains cell.routine := by
  rw [cells, cells, filter_flatMap_cellsOf, List.filter_congr hallows, routines_retain h,
    List.filter_comm]
  exact List.flatMap_congr fun routine _ => cellsOf_retain h routine

/-- The expected values of a narrowed plan. -/
theorem WellFormed.expectedTable_retain (hplan : plan.WellFormed)
    (h : plan.retain names = .ok kept) {routine : Routine} (hr : routine ∈ kept.routines)
    {size : Nat} (hsize : size ∈ plan.sizes) :
    kept.expectedTable.get? routine.name size = plan.expectedTable.get? routine.name size := by
  have hkept := hplan.retain h
  obtain ⟨-, rfl⟩ := retain_eq_ok_iff.mp h
  obtain ⟨place, hplace⟩ := List.mem_iff_getElem?.mp hsize
  rw [hkept.expectedTable_get? hr hplace, hplan.expectedTable_get? (List.mem_filter.mp hr).1 hplace]
  rfl

end Plan

end RoutineTiming
