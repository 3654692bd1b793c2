import RoutineTiming.Measuring.Capabilities
import RoutineTiming.Plan.Tables
import RoutineTiming.Proofs.KeyedStore
import RoutineTiming.Proofs.Plan.WellFormed

/-!
# The cells of a plan

A cell is a routine at a size, with the first iteration count that the plan gives it. A well-formed
plan has one cell for each of its routines and sizes, and its tables hold at each pair of routine
and size what the plan says there.

## Main definitions

* `Cell` : a routine at a size with its first iteration count.
* `Plan.cellsOf`, `Plan.cells` : the cells of a routine, and of all routines that are measured.
* `Plan.expectedValue?` : the value that a routine is expected to return at a place among the sizes.

## Main results

* `Plan.WellFormed.pairwise_ne_key` : no two cells have one routine and one size.
* `Plan.WellFormed.iterationTable_get?` : the table of iteration counts.
* `Plan.WellFormed.expectedTable_get?` : the table of expected values.
-/

namespace RoutineTiming

/-- A routine at a size with its first iteration count. -/
structure Cell where
  routine : String
  size : Nat
  count : Nat
  deriving DecidableEq, Repr

/-- The pair of routine and size by which tables know a cell. -/
def Cell.key (cell : Cell) : String × Nat := (cell.routine, cell.size)

namespace Plan

variable (plan : Plan)

/-- The cells of a routine, in the order of the sizes. -/
def cellsOf (routine : Routine) : List Cell :=
  (plan.sizes.zip routine.iterations).map fun (size, count) => ⟨routine.name, size, count⟩

/-- The cells of all routines that have what they require, in the order of the plan. -/
def cells (capabilities : Capabilities) : List Cell :=
  (plan.routines.filter capabilities.allows).flatMap plan.cellsOf

/-- The value that a routine is expected to return at a place among the sizes. -/
def expectedValue? (routine : Routine) (place : Nat) : Option String :=
  (routine.family.bind plan.expected.get?).bind fun values => values[place]?

variable {plan}

theorem routine_of_mem_cellsOf {routine : Routine} {cell : Cell}
    (h : cell ∈ plan.cellsOf routine) : cell.routine = routine.name := by
  obtain ⟨p, -, rfl⟩ := List.mem_map.mp h
  rfl

theorem exists_place_of_mem_cellsOf {routine : Routine} {cell : Cell}
    (h : cell ∈ plan.cellsOf routine) :
    ∃ i : Nat, plan.sizes[i]? = some cell.size ∧ routine.iterations[i]? = some cell.count := by
  obtain ⟨p, hp, rfl⟩ := List.mem_map.mp h
  obtain ⟨i, hi⟩ := List.mem_iff_getElem?.mp hp
  exact ⟨i, List.getElem?_zip_eq_some.mp hi⟩

theorem mem_cells_iff {capabilities : Capabilities} {cell : Cell} :
    cell ∈ plan.cells capabilities ↔
      ∃ r ∈ plan.routines, capabilities.allows r = true ∧ cell ∈ plan.cellsOf r := by
  simp [cells, List.mem_flatMap, List.mem_filter, and_assoc]

namespace WellFormed

theorem map_size_cellsOf (h : plan.WellFormed) {routine : Routine} (hr : routine ∈ plan.routines) :
    (plan.cellsOf routine).map Cell.size = plan.sizes := by
  rw [cellsOf, List.map_map]
  exact List.map_fst_zip (Nat.le_of_eq (h.iterations_length routine hr).symm)

/-- No two cells of a list of distinct routines have one routine and one size. -/
theorem pairwise_ne_key (h : plan.WellFormed) {routines : List Routine}
    (hroutines : routines.Sublist plan.routines) :
    (routines.flatMap plan.cellsOf).Pairwise fun c c' => c.key ≠ c'.key := by
  refine List.pairwise_flatMap.mpr ⟨fun routine hr => ?_, ?_⟩
  · have hsizes : ((plan.cellsOf routine).map Cell.size).Pairwise (· < ·) := by
      rw [h.map_size_cellsOf (hroutines.subset hr)]
      exact h.sizes_ascending
    refine (List.pairwise_map.mp hsizes).imp fun {c c'} hlt heq => ?_
    exact absurd (congrArg Prod.snd heq) (Nat.ne_of_lt hlt)
  · have hnames : (routines.map Routine.name).Nodup := h.names_nodup.sublist (hroutines.map _)
    refine (List.pairwise_map.mp hnames).imp fun {r r'} hne c hc c' hc' heq => hne ?_
    rw [← routine_of_mem_cellsOf hc, ← routine_of_mem_cellsOf hc']
    exact congrArg Prod.fst heq

theorem cells_pairwise_ne_key (h : plan.WellFormed) (capabilities : Capabilities) :
    (plan.cells capabilities).Pairwise fun c c' => c.key ≠ c'.key :=
  h.pairwise_ne_key List.filter_sublist

/-! ### The table of iteration counts -/

theorem iterationTable_eq_foldl :
    plan.iterationTable = ((plan.routines.flatMap plan.cellsOf).map fun c => (c.key, c.count)).foldl
      (fun table e => table.set e.1.1 e.1.2 e.2) {} := by
  rw [List.foldl_map, List.foldl_flatMap]
  simp only [iterationTable, IterationTable.seed, cellsOf, List.foldl_map, Cell.key]

/-- The first iteration counts are those that the plan gives to its routines. -/
theorem iterationTable_get? (h : plan.WellFormed) {name : String} {size count : Nat} :
    plan.iterationTable.get? name size = some count ↔
      ∃ r ∈ plan.routines, ⟨name, size, count⟩ ∈ plan.cellsOf r := by
  have hnodup : (((plan.routines.flatMap plan.cellsOf).map fun c => (c.key, c.count)).map
      Prod.fst).Nodup := by
    rw [List.map_map]
    exact List.pairwise_map.mpr (h.pairwise_ne_key (List.Sublist.refl _))
  have hset (t : IterationTable) (e : (String × Nat) × Nat) (k : String × Nat) :
      (t.set e.1.1 e.1.2 e.2).get? k.1 k.2 = if k = e.1 then some e.2 else t.get? k.1 k.2 := by
    rw [IterationTable.get?_set]
    simp [Prod.ext_iff]
  have hget := get_foldl_set (fun (t : IterationTable) k => t.get? k.1 k.2) hset
    ((plan.routines.flatMap plan.cellsOf).map fun c => (c.key, c.count)) {} (name, size)
  have hempty : ({} : IterationTable).get? name size = none := rfl
  rw [iterationTable_eq_foldl, hget, hempty, Option.or_none, lastValue_eq_some_iff hnodup,
    List.mem_map]
  constructor
  · rintro ⟨c, hc, heq⟩
    obtain ⟨r, hr, hc⟩ := List.mem_flatMap.mp hc
    cases heq
    exact ⟨r, hr, hc⟩
  · rintro ⟨r, hr, hc⟩
    exact ⟨_, List.mem_flatMap.mpr ⟨r, hr, hc⟩, rfl⟩

theorem iterationTable_get?_of_mem_cells (h : plan.WellFormed) {capabilities : Capabilities}
    {cell : Cell} (hcell : cell ∈ plan.cells capabilities) :
    plan.iterationTable.get? cell.routine cell.size = some cell.count := by
  obtain ⟨r, hr, -, hc⟩ := mem_cells_iff.mp hcell
  exact h.iterationTable_get?.mpr ⟨r, hr, hc⟩

/-! ### The table of expected values -/

theorem familyRow_get? (h : plan.WellFormed) {family : String} {values : List String}
    (hvalues : plan.expected.get? family = some values) {i size : Nat}
    (hsize : plan.sizes[i]? = some size) :
    ∃ row, plan.familyRow family = some row ∧ row.get? size = values[i]? := by
  have hlength : values.length = plan.sizes.length :=
    h.expected_length _ ((plan.expected.mem_entries_iff family values).mpr hvalues)
  have hnodup : ((plan.sizes.zip values).map Prod.fst).Nodup := by
    rw [List.map_fst_zip (Nat.le_of_eq hlength.symm)]
    exact h.sizes_ascending.imp Nat.ne_of_lt
  obtain ⟨hi, -⟩ := List.getElem?_eq_some_iff.mp hsize
  have hvalue : values[i]? = some values[i] := List.getElem?_eq_getElem (hlength ▸ hi)
  refine ⟨.ofList (plan.sizes.zip values), by rw [familyRow, hvalues]; rfl, ?_⟩
  rw [hvalue, OrderedMap.get?_ofList_eq_some_iff hnodup]
  exact List.mem_of_getElem? (List.getElem?_zip_eq_some.mpr ⟨hsize, hvalue⟩)

/-- The value expected of a routine at a size is the one that the plan lists for its family. -/
theorem expectedTable_get? (h : plan.WellFormed) {routine : Routine}
    (hr : routine ∈ plan.routines) {i size : Nat} (hsize : plan.sizes[i]? = some size) :
    plan.expectedTable.get? routine.name size = plan.expectedValue? routine i := by
  let rowOf (r : Routine) : Option (String × OrderedMap Nat String) :=
    (r.family.bind plan.familyRow).map fun row => (r.name, row)
  have hname {r : Routine} {e : String × OrderedMap Nat String} (he : rowOf r = some e) :
      e.1 = r.name := by
    obtain ⟨row, -, rfl⟩ := Option.map_eq_some_iff.mp he
    rfl
  have hnodup : ((plan.routines.filterMap rowOf).map Prod.fst).Nodup := by
    refine List.pairwise_map.mpr (List.pairwise_filterMap.mpr ?_)
    refine (List.pairwise_map.mp h.names_nodup).imp fun {r r'} hne e he e' he' heq => hne ?_
    rw [← hname he, ← hname he', heq]
  have hrows (row : OrderedMap Nat String) :
      plan.expectedTable.rows.get? routine.name = some row ↔
        routine.family.bind plan.familyRow = some row := by
    refine (OrderedMap.get?_ofList_eq_some_iff hnodup).trans (List.mem_filterMap.trans ?_)
    constructor
    · rintro ⟨r, hr', he⟩
      have heq : r = routine := List.inj_on_of_nodup_map h.names_nodup hr' hr (hname he).symm
      subst heq
      obtain ⟨_, hrow, he⟩ := Option.map_eq_some_iff.mp he
      cases he
      exact hrow
    · intro hrow
      exact ⟨routine, hr, by simp only [rowOf, hrow, Option.map_some]⟩
  rw [ExpectedTable.get?, show plan.expectedTable.rows.get? routine.name =
    routine.family.bind plan.familyRow from Option.ext hrows, expectedValue?]
  cases hfamily : routine.family with
  | none => rfl
  | some family =>
    have hknown := h.family_known routine hr family hfamily
    obtain ⟨values, hvalues⟩ := Option.isSome_iff_exists.mp hknown
    obtain ⟨row, hrow, hget⟩ := h.familyRow_get? hvalues hsize
    simp only [Option.bind_some, hrow, hget, hvalues]

/-- Just the routines without a family have no expected values. -/
theorem expectedValue?_eq_none_iff (h : plan.WellFormed) {routine : Routine}
    (hr : routine ∈ plan.routines) {i size : Nat} (hsize : plan.sizes[i]? = some size) :
    plan.expectedValue? routine i = none ↔ routine.family = none := by
  rw [expectedValue?]
  cases hfamily : routine.family with
  | none => simp
  | some family =>
    have hknown := h.family_known routine hr family hfamily
    obtain ⟨values, hvalues⟩ := Option.isSome_iff_exists.mp hknown
    have hlength : values.length = plan.sizes.length :=
      h.expected_length _ ((plan.expected.mem_entries_iff family values).mpr hvalues)
    obtain ⟨hi, -⟩ := List.getElem?_eq_some_iff.mp hsize
    rw [Option.bind_some, hvalues, Option.bind_some, List.getElem?_eq_getElem (hlength ▸ hi)]
    simp

/-- A routine that has what it requires has a cell at each size. -/
theorem exists_mem_cells (h : plan.WellFormed) {capabilities : Capabilities} {routine : Routine}
    (hr : routine ∈ plan.routines) (hallows : capabilities.allows routine = true) {size : Nat}
    (hsize : size ∈ plan.sizes) :
    ∃ cell ∈ plan.cells capabilities, cell.key = (routine.name, size) := by
  rw [← h.map_size_cellsOf hr] at hsize
  obtain ⟨cell, hcell, rfl⟩ := List.mem_map.mp hsize
  refine ⟨cell, mem_cells_iff.mpr ⟨routine, hr, hallows, hcell⟩, ?_⟩
  rw [Cell.key, routine_of_mem_cellsOf hcell]

end WellFormed

end Plan

end RoutineTiming
