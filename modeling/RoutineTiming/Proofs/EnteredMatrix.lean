import RoutineTiming.Proofs.InsertedMatrix
import RoutineTiming.Proofs.Plan.Cells

/-!
# Matrices entered cell by cell

A matrix into which results are entered holds at each pair of a routine and a size the result that
was entered there. If results are entered for all cells of some routines of a plan in order, it has
one row for each routine, in the same order, with one entry for each size.

## Main definitions

* `ResultsMatrix.enterAll` : results entered for cells one after the other.

## Main results

* `ResultsMatrix.get?_enterAll_iff` : what the matrix holds.
* `ResultsMatrix.rows_enterAll` : the rows of the matrix.
-/

namespace RoutineTiming

namespace ResultsMatrix

/-- The matrix with results entered for cells one after the other. -/
def enterAll (matrix : ResultsMatrix) (entries : List (Cell × CellResult)) : ResultsMatrix :=
  entries.foldl (fun matrix e => matrix.insert e.1.routine e.1.size e.2) matrix

/-- A matrix of cells with different keys holds just the results that were entered. -/
theorem get?_enterAll_iff {entries : List (Cell × CellResult)}
    (h : (entries.map fun e => e.1.key).Nodup) {routine : String} {size : Nat}
    {result : CellResult} :
    (enterAll {} entries).get? routine size = some result ↔
      ∃ cell, (cell, result) ∈ entries ∧ cell.key = (routine, size) := by
  have hlist : enterAll {} entries = ofList (entries.map fun e => (e.1.key, e.2)) := by
    rw [ofList, List.foldl_map]
    rfl
  have hnodup : ((entries.map fun e => (e.1.key, e.2)).map Prod.fst).Nodup := by
    rw [List.map_map]
    exact h
  rw [hlist, get?_ofList, lastValue_eq_some_iff hnodup, List.mem_map]
  constructor
  · rintro ⟨⟨cell, result⟩, he, heq⟩
    cases heq
    exact ⟨cell, he, rfl⟩
  · rintro ⟨cell, he, hkey⟩
    exact ⟨(cell, result), he, by rw [hkey]⟩

theorem insertCell_of_notMem {routine : String} {rows : List (String × ResultsRow)}
    (h : routine ∉ rows.map Prod.fst) (size : Nat) (result : CellResult) :
    insertCell routine size result rows =
      rows ++ [(routine, OrderedMap.empty.insert size result)] := by
  induction rows with
  | nil => rfl
  | cons head rest ih =>
    rw [List.map_cons, List.mem_cons, not_or] at h
    rw [insertCell, if_neg fun heq => h.1 heq.symm, ih h.2, List.cons_append]

theorem insertCell_append_singleton {routine : String} {rows : List (String × ResultsRow)}
    (h : routine ∉ rows.map Prod.fst) (row : ResultsRow) (size : Nat) (result : CellResult) :
    insertCell routine size result (rows ++ [(routine, row)]) =
      rows ++ [(routine, row.insert size result)] := by
  induction rows with
  | nil => rw [List.nil_append, insertCell, if_pos rfl, List.nil_append]
  | cons head rest ih =>
    rw [List.map_cons, List.mem_cons, not_or] at h
    rw [List.cons_append, insertCell, if_neg fun heq => h.1 heq.symm, ih h.2, List.cons_append]

/-- Results for the routine of the last row are entered into this row. -/
theorem rows_enterAll_last {routine : String} {matrix : ResultsMatrix}
    {rows : List (String × ResultsRow)} {row : ResultsRow} {entries : List (Cell × CellResult)}
    (hentries : ∀ e ∈ entries, e.1.routine = routine) (hnew : routine ∉ rows.map Prod.fst)
    (hmatrix : matrix.rows = rows ++ [(routine, row)]) :
    (matrix.enterAll entries).rows =
      rows ++ [(routine, (entries.map fun e => (e.1.size, e.2)).foldl
        (fun m e => m.insert e.1 e.2) row)] := by
  induction entries generalizing matrix row with
  | nil => exact hmatrix
  | cons e entries ih =>
    obtain ⟨he, hentries⟩ := List.forall_mem_cons.mp hentries
    refine ih hentries ?_
    show insertCell e.1.routine e.1.size e.2 matrix.rows = _
    rw [hmatrix, he, insertCell_append_singleton hnew]

/-- Results for a new routine are entered into a new last row. -/
theorem rows_enterAll_new {routine : String} {matrix : ResultsMatrix}
    {entries : List (Cell × CellResult)} (hne : entries ≠ [])
    (hentries : ∀ e ∈ entries, e.1.routine = routine)
    (hnew : routine ∉ matrix.rows.map Prod.fst) :
    (matrix.enterAll entries).rows =
      matrix.rows ++ [(routine, OrderedMap.ofList (entries.map fun e => (e.1.size, e.2)))] := by
  cases entries with
  | nil => exact absurd rfl hne
  | cons e entries =>
    obtain ⟨he, hentries⟩ := List.forall_mem_cons.mp hentries
    have hfirst : (matrix.insert e.1.routine e.1.size e.2).rows =
        matrix.rows ++ [(routine, OrderedMap.empty.insert e.1.size e.2)] := by
      rw [he]
      exact insertCell_of_notMem hnew e.1.size e.2
    have hrest := rows_enterAll_last hentries hnew hfirst
    exact hrest

/-- Results for the cells of a routine are entered under the sizes of the plan. -/
theorem keys_ofList_entries {plan : Plan} (hplan : plan.WellFormed) {routine : Routine}
    (hr : routine ∈ plan.routines) {entries : List (Cell × CellResult)}
    (hentries : entries.map Prod.fst = plan.cellsOf routine) :
    (OrderedMap.ofList (entries.map fun e => (e.1.size, e.2))).keys = plan.sizes := by
  have hsizes : entries.map (fun e => e.1.size) = plan.sizes := by
    rw [← hplan.map_size_cellsOf hr, ← hentries, List.map_map]
    rfl
  have hascending : (entries.map fun e => (e.1.size, e.2)).Pairwise fun a b =>
      compare a.1 b.1 = .lt := by
    have hsorted := hplan.sizes_ascending
    rw [← hsizes, List.pairwise_map] at hsorted
    exact List.pairwise_map.mpr (hsorted.imp Nat.compare_eq_lt.mpr)
  rw [OrderedMap.keys_ofList hascending, List.map_map]
  exact hsizes

/-- Results for all cells of some routines give a row for each routine with an entry for each
size. -/
theorem rows_enterAll {plan : Plan} (hplan : plan.WellFormed) {routines : List Routine}
    (hroutines : routines.Sublist plan.routines) {matrix : ResultsMatrix}
    (hnew : ∀ routine ∈ routines, routine.name ∉ matrix.rows.map Prod.fst)
    {entries : List (Cell × CellResult)}
    (hentries : entries.map Prod.fst = routines.flatMap plan.cellsOf) :
    (matrix.enterAll entries).rows.map (fun row => (row.1, row.2.keys)) =
      matrix.rows.map (fun row => (row.1, row.2.keys)) ++
        routines.map fun routine => (routine.name, plan.sizes) := by
  induction routines generalizing matrix entries with
  | nil =>
    cases entries with
    | nil => exact (List.append_nil _).symm
    | cons e entries => cases hentries
  | cons routine routines ih =>
    have hr : routine ∈ plan.routines := hroutines.subset List.mem_cons_self
    obtain ⟨front, back, rfl, hfront, hback⟩ := List.map_eq_append_iff.mp hentries
    have hne : front ≠ [] := by
      rintro rfl
      have hsizes := hplan.map_size_cellsOf hr
      rw [← hfront] at hsizes
      exact hplan.sizes_ne_nil hsizes.symm
    have hnames : ∀ e ∈ front, e.1.routine = routine.name := fun e he =>
      Plan.routine_of_mem_cellsOf (hfront ▸ List.mem_map_of_mem he)
    have hrows := rows_enterAll_new hne hnames (hnew routine List.mem_cons_self)
    have hkeys := keys_ofList_entries hplan hr hfront
    have hnodup : ((routine :: routines).map Routine.name).Nodup :=
      hplan.names_nodup.sublist (hroutines.map _)
    -- The rows so far must not hold the routines to come, or their results would go into old rows.
    have hfresh : ∀ r ∈ routines, r.name ∉ (matrix.enterAll front).rows.map Prod.fst := by
      intro r hr' hmem
      rw [hrows, List.map_append, List.mem_append] at hmem
      rcases hmem with hmem | hmem
      · exact hnew r (List.mem_cons_of_mem _ hr') hmem
      · rw [List.map_singleton, List.mem_singleton] at hmem
        have hname : r.name = routine.name := hmem
        exact (List.nodup_cons.mp hnodup).1 (hname ▸ List.mem_map_of_mem hr')
    have hrest := ih (List.sublist_of_cons_sublist hroutines) hfresh hback
    rw [enterAll, List.foldl_append]
    refine hrest.trans ?_
    rw [hrows, List.map_append, List.append_assoc, List.map_singleton, hkeys, List.map_cons]
    rfl

end ResultsMatrix

end RoutineTiming
