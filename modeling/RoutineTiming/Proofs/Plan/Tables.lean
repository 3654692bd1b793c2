import RoutineTiming.Proofs.Plan.Accepted
import RoutineTiming.Proofs.Plan.Cells
import RoutineTiming.Proofs.Plan.Choice

/-!
# The tables of a valid plan

The tables that a valid plan gives hold at each of its routines and sizes what the plan lists there,
and they hold nothing else. This is so as well after the plan has been narrowed to some of its
routines.

## Main results

* `Plan.WellFormed.exists_count`, `Plan.WellFormed.of_count` : the table of iteration counts.
* `Plan.WellFormed.exists_value`, `Plan.of_value` : the table of expected values.
* `Plan.tables_of_choices` : both tables after any number of choices.
-/

namespace RoutineTiming

namespace Plan

variable {plan : Plan} {name : String} {routine : Routine} {i size : Nat}

/-! ### Iteration counts -/

/-- A routine has a count at each size, and the table holds it. -/
theorem WellFormed.exists_count (h : plan.WellFormed) (hr : routine ∈ plan.routines)
    (hsize : plan.sizes[i]? = some size) :
    ∃ count, routine.iterations[i]? = some count ∧
      plan.iterationTable.get? routine.name size = some count := by
  obtain ⟨hi, -⟩ := List.getElem?_eq_some_iff.mp hsize
  rw [← h.iterations_length routine hr] at hi
  have hcount : routine.iterations[i]? = some routine.iterations[i] := List.getElem?_eq_getElem hi
  have hcell : ⟨routine.name, size, routine.iterations[i]⟩ ∈ plan.cellsOf routine :=
    List.mem_map.mpr ⟨(size, routine.iterations[i]),
      List.mem_of_getElem? (List.getElem?_zip_eq_some.mpr ⟨hsize, hcount⟩), rfl⟩
  exact ⟨_, hcount, h.iterationTable_get?.mpr ⟨routine, hr, hcell⟩⟩

/-- A count in the table is that of a routine at a size, and it is not zero. -/
theorem WellFormed.of_count (h : plan.WellFormed) {count : Nat}
    (hget : plan.iterationTable.get? name size = some count) :
    (∃ routine ∈ plan.routines, routine.name = name) ∧ size ∈ plan.sizes ∧ 1 ≤ count := by
  obtain ⟨routine, hr, hcell⟩ := h.iterationTable_get?.mp hget
  obtain ⟨place, hsize, hcount⟩ := exists_place_of_mem_cellsOf hcell
  have hpos : count ≠ 0 := fun hzero =>
    h.zero_notMem_iterations routine hr (hzero ▸ List.mem_of_getElem? hcount)
  exact ⟨⟨routine, hr, (routine_of_mem_cellsOf hcell).symm⟩, List.mem_of_getElem? hsize,
    Nat.one_le_iff_ne_zero.mpr hpos⟩

/-! ### Expected values -/

/-- A routine with a family has an expected value at each size, and the table holds it. -/
theorem WellFormed.exists_value (h : plan.WellFormed) (hr : routine ∈ plan.routines)
    {family : String} (hfamily : routine.family = some family)
    (hsize : plan.sizes[i]? = some size) :
    ∃ values value, plan.expected.get? family = some values ∧ values[i]? = some value ∧
      plan.expectedTable.get? routine.name size = some value := by
  have hknown := h.family_known routine hr family hfamily
  obtain ⟨values, hvalues⟩ := Option.isSome_iff_exists.mp hknown
  have hlength := h.expected_length _ ((plan.expected.mem_entries_iff family values).mpr hvalues)
  obtain ⟨hi, -⟩ := List.getElem?_eq_some_iff.mp hsize
  rw [← hlength] at hi
  have hvalue : values[i]? = some values[i] := List.getElem?_eq_getElem hi
  refine ⟨values, _, hvalues, hvalue, ?_⟩
  rw [h.expectedTable_get? hr hsize, expectedValue?, hfamily, Option.bind_some, hvalues,
    Option.bind_some, hvalue]

/-- A value in the table is that of a routine with a family at a size. -/
theorem of_value {value : String} (hget : plan.expectedTable.get? name size = some value) :
    (∃ routine ∈ plan.routines, routine.name = name ∧ ∃ family, routine.family = some family) ∧
      size ∈ plan.sizes := by
  obtain ⟨row, hrow, hvalue⟩ := Option.bind_eq_some_iff.mp hget
  obtain ⟨routine, hr, hentry⟩ := List.mem_filterMap.mp (OrderedMap.mem_of_get?_ofList hrow)
  obtain ⟨row, hfamilyRow, hentry⟩ := Option.map_eq_some_iff.mp hentry
  cases hentry
  obtain ⟨family, hfamily, hvalues⟩ := Option.bind_eq_some_iff.mp hfamilyRow
  obtain ⟨values, -, rfl⟩ := Option.map_eq_some_iff.mp hvalues
  have hmem := OrderedMap.mem_of_get?_ofList hvalue
  exact ⟨⟨routine, hr, rfl, family, hfamily⟩, (List.of_mem_zip hmem).1⟩

/-- Routines of one family have the same expected values. -/
theorem WellFormed.get?_eq_of_family (h : plan.WellFormed) {routine' : Routine}
    (hr : routine ∈ plan.routines) (hr' : routine' ∈ plan.routines)
    (hfamily : routine.family = routine'.family) (size : Nat) :
    plan.expectedTable.get? routine.name size = plan.expectedTable.get? routine'.name size := by
  by_cases hsize : size ∈ plan.sizes
  · obtain ⟨place, hplace⟩ := List.mem_iff_getElem?.mp hsize
    rw [h.expectedTable_get? hr hplace, h.expectedTable_get? hr' hplace, expectedValue?, hfamily,
      expectedValue?]
  · have hnone (name : String) : plan.expectedTable.get? name size = none :=
      Option.eq_none_iff_forall_ne_some.mpr fun value hvalue => hsize (of_value hvalue).2
    rw [hnone, hnone]

/-! ### Both tables -/

/-- **The tables of a valid plan**, also after it has been narrowed any number of times. At each
routine and size the one holds the iteration count of the routine there, which is not zero, and the
other the expected value of its family, if it has one. They hold nothing for other names, for other
sizes, and for the values of routines without a family. -/
theorem tables_of_choices {plan kept : Plan} {choices : List (List String)}
    (hplan : plan.validate = .ok ()) (hkept : choices.foldlM Plan.retain plan = .ok kept) :
    (∀ routine ∈ kept.routines, ∀ i size : Nat, kept.sizes[i]? = some size →
      ∃ count, routine.iterations[i]? = some count ∧
        kept.iterationTable.get? routine.name size = some count) ∧
    (∀ name size, (∀ routine ∈ kept.routines, routine.name ≠ name) ∨ size ∉ kept.sizes →
      kept.iterationTable.get? name size = none) ∧
    (∀ name size count, kept.iterationTable.get? name size = some count → 1 ≤ count) ∧
    (∀ routine ∈ kept.routines, ∀ family, routine.family = some family →
      ∀ i size : Nat, kept.sizes[i]? = some size →
        ∃ values value, kept.expected.get? family = some values ∧ values[i]? = some value ∧
          kept.expectedTable.get? routine.name size = some value) ∧
    (∀ name size, (∀ routine ∈ kept.routines, routine.name = name → routine.family = none) ∨
        size ∉ kept.sizes → kept.expectedTable.get? name size = none) ∧
    ∀ routine ∈ kept.routines, ∀ routine' ∈ kept.routines, routine.family = routine'.family →
      ∀ size, kept.expectedTable.get? routine.name size =
        kept.expectedTable.get? routine'.name size := by
  have h : kept.WellFormed := (validate_eq_ok_iff.mp hplan).foldlM_retain hkept
  refine ⟨fun routine hr i size => h.exists_count hr, fun name size hother => ?_,
    fun name size count hget => (h.of_count hget).2.2,
    fun routine hr family hfamily i size => h.exists_value hr hfamily,
    fun name size hother => ?_, fun routine hr routine' hr' => h.get?_eq_of_family hr hr'⟩
  · refine Option.eq_none_iff_forall_ne_some.mpr fun count hget => ?_
    obtain ⟨⟨routine, hr, hname⟩, hsize, -⟩ := h.of_count hget
    exact hother.elim (fun hnames => hnames routine hr hname) fun hsizes => hsizes hsize
  · refine Option.eq_none_iff_forall_ne_some.mpr fun value hget => ?_
    obtain ⟨⟨routine, hr, hname, family, hfamily⟩, hsize⟩ := of_value hget
    refine hother.elim (fun hnames => ?_) fun hsizes => hsizes hsize
    rw [hnames routine hr hname] at hfamily
    cases hfamily

end Plan

/-- The tables of the plan with three routines after two of them have been chosen. -/
theorem tables_of_choices_triplePlan :
    ∃ kept, [["b", "c", "b"], ["c", "b"]].foldlM Plan.retain triplePlan = .ok kept ∧
      kept.iterationTable.get? "b" 9 = some 6 ∧ kept.iterationTable.get? "a" 9 = none ∧
      kept.expectedTable.get? "b" 9 = some "9" ∧ kept.expectedTable.get? "b" 10 = none ∧
      kept.expectedTable.get? "c" 8 = kept.expectedTable.get? "b" 8 := by
  have hvalid : triplePlan.validate = .ok () := rfl
  have hkept : [["b", "c", "b"], ["c", "b"]].foldlM Plan.retain triplePlan =
      .ok { triplePlan with routines := [fRoutine "c" [1, 2], fRoutine "b" [5, 6]] } := rfl
  obtain ⟨hcount, hnoCount, -, hvalue, hnoValue, hfamily⟩ := Plan.tables_of_choices hvalid hkept
  have hc : fRoutine "c" [1, 2] ∈ [fRoutine "c" [1, 2], fRoutine "b" [5, 6]] :=
    List.mem_cons_self
  have hb : fRoutine "b" [5, 6] ∈ [fRoutine "c" [1, 2], fRoutine "b" [5, 6]] :=
    List.mem_cons_of_mem _ List.mem_cons_self
  obtain ⟨count, heq, hget⟩ := hcount _ hb 1 9 rfl
  obtain ⟨values, value, hvalues, heq', hget'⟩ := hvalue _ hb "f" rfl 1 9 rfl
  cases heq
  cases hvalues
  cases heq'
  exact ⟨_, hkept, hget, hnoCount "a" 9 (.inl (by decide)), hget',
    hnoValue "b" 10 (.inr (by decide)), hfamily _ hc _ hb rfl 8⟩

end RoutineTiming
