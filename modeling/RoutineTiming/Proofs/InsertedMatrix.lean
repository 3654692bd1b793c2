import Mathlib.Data.List.Induction
import RoutineTiming.Proofs.KeyedStore
import RoutineTiming.ResultsMatrix

/-!
# Matrices of inserted results

A matrix into which results are inserted in any order is a map: it holds at each pair of a routine
and a size the result that was inserted there last. Its rows come in the order in which each routine
was first inserted, and no later result moves them; the sizes of a row ascend.

## Main definitions

* `ResultsMatrix.ofList` : the matrix of a list of inserted results.

## Main results

* `ResultsMatrix.ext_get?` : a matrix is determined by the order of its routines and by what it
  holds.
* `ResultsMatrix.get?_ofList` : a matrix holds what was inserted last.
* `ResultsMatrix.names_ofList` : the order of its routines.
* `matrix_of_inserts` : a matrix of inserted results is a map in the order of first insertion.
-/

namespace RoutineTiming

namespace ResultsMatrix

variable {matrix matrix' : ResultsMatrix} {routine : String} {row : ResultsRow}

/-! ### Rows -/

theorem row?_eq_some_iff : matrix.row? routine = some row ↔ (routine, row) ∈ matrix.rows :=
  findRow_eq_some_iff matrix.distinct

theorem get?_of_mem_rows (h : (routine, row) ∈ matrix.rows) (size : Nat) :
    matrix.get? routine size = row.get? size := by
  rw [get?, row?_eq_some_iff.mpr h, Option.bind_some]

/-- A matrix is determined by the order of its routines and by what it holds. -/
theorem ext_get? (hnames : matrix.rows.map Prod.fst = matrix'.rows.map Prod.fst)
    (hget : ∀ routine size, matrix.get? routine size = matrix'.get? routine size) :
    matrix = matrix' := by
  refine ResultsMatrix.ext (List.ext_getElem (by simpa using congrArg List.length hnames)
    fun i hi hi' => ?_)
  have hname : matrix.rows[i].1 = matrix'.rows[i].1 := by
    simpa [hi, hi'] using congrArg (·[i]?) hnames
  have hrow : (matrix.rows[i].1, matrix.rows[i].2) ∈ matrix.rows := List.getElem_mem hi
  have hrow' : (matrix.rows[i].1, matrix'.rows[i].2) ∈ matrix'.rows := by
    rw [hname]
    exact List.getElem_mem hi'
  refine Prod.ext hname (OrderedMap.ext_get? fun size => ?_)
  rw [← get?_of_mem_rows hrow, ← get?_of_mem_rows hrow', hget]

/-! ### Inserted results -/

/-- The matrix of a list of results, inserted one after the other. -/
def ofList (entries : List ((String × Nat) × CellResult)) : ResultsMatrix :=
  entries.foldl (fun matrix e => matrix.insert e.1.1 e.1.2 e.2) ⟨[], List.nodup_nil⟩

/-- A matrix holds what was inserted last. -/
theorem get?_ofList (entries : List ((String × Nat) × CellResult)) (routine : String)
    (size : Nat) : (ofList entries).get? routine size = lastValue (routine, size) entries := by
  have hset (m : ResultsMatrix) (e : (String × Nat) × CellResult) (k : String × Nat) :
      (m.insert e.1.1 e.1.2 e.2).get? k.1 k.2 = if k = e.1 then some e.2 else m.get? k.1 k.2 := by
    rw [get?_insert]
    simp only [Prod.ext_iff]
  have hget := get_foldl_set (fun (m : ResultsMatrix) k => m.get? k.1 k.2) hset entries
    ⟨[], List.nodup_nil⟩ (routine, size)
  have hempty : ResultsMatrix.get? ⟨[], List.nodup_nil⟩ routine size = none := rfl
  rwa [hempty, Option.or_none] at hget

/-- The routines come in the order in which each was first inserted. -/
theorem names_ofList (entries : List ((String × Nat) × CellResult)) :
    (ofList entries).rows.map Prod.fst = (entries.map fun e => e.1.1).eraseDups := by
  induction entries using List.reverseRecOn with
  | nil => rfl
  | append_singleton entries e ih =>
    have hinsert : (ofList (entries ++ [e])).rows =
        insertCell e.1.1 e.1.2 e.2 (ofList entries).rows := by
      rw [ofList, List.foldl_append]
      rfl
    rw [hinsert, names_insertCell, ih, List.map_append, List.eraseDups_append]
    simp only [List.mem_eraseDups]
    by_cases hold : e.1.1 ∈ entries.map fun e => e.1.1
    · rw [if_pos hold]
      simp [List.removeAll, hold]
    · rw [if_neg hold]
      simp [List.removeAll, hold, List.eraseDups_cons]

/-- Every row holds a result. -/
theorem entries_ne_nil_of_mem_rows {entries : List ((String × Nat) × CellResult)}
    (h : (routine, row) ∈ (ofList entries).rows) : row.entries ≠ [] := by
  have hname : routine ∈ (ofList entries).rows.map Prod.fst := List.mem_map_of_mem h
  rw [names_ofList, List.mem_eraseDups, List.mem_map] at hname
  obtain ⟨e, he, rfl⟩ := hname
  have hget : row.get? e.1.2 = lastValue e.1 entries := by
    rw [← get?_of_mem_rows h, get?_ofList]
  intro hnil
  have hnone : row.get? e.1.2 = none := by rw [OrderedMap.get?, hnil, OrderedMap.lookup]
  rw [hnone] at hget
  exact lastValue_eq_none_iff.mp hget.symm (List.mem_map_of_mem he)

end ResultsMatrix

/-- **A matrix of inserted results is a map in the order of first insertion.** It holds at each pair
the result that was inserted there last, and nothing where none was. Its rows are those of the
inserted routines, each once, in the order of their first insertion, which no later result changes;
a row holds at least one result, in ascending order of the sizes, and the rows hold just what is
read from the matrix. The order of the routines and the last result of each pair settle the
matrix. -/
theorem matrix_of_inserts (entries : List ((String × Nat) × CellResult)) :
    let matrix := ResultsMatrix.ofList entries
    (∀ routine size result, matrix.get? routine size = some result ↔
      ∃ earlier later, entries = earlier ++ ((routine, size), result) :: later ∧
        (routine, size) ∉ later.map Prod.fst) ∧
    (∀ routine size, matrix.get? routine size = none ↔
      (routine, size) ∉ entries.map Prod.fst) ∧
    matrix.rows.map Prod.fst = (entries.map fun e => e.1.1).eraseDups ∧
    (∀ later, matrix.rows.map Prod.fst <+:
      (ResultsMatrix.ofList (entries ++ later)).rows.map Prod.fst) ∧
    (∀ routine row, (routine, row) ∈ matrix.rows →
      row.entries ≠ [] ∧ row.keys.Pairwise (· < ·)) ∧
    (∀ routine size result, (∃ row, (routine, row) ∈ matrix.rows ∧ (size, result) ∈ row.entries) ↔
      matrix.get? routine size = some result) ∧
    ∀ entries', matrix = ResultsMatrix.ofList entries' ↔
      (entries.map fun e => e.1.1).eraseDups = (entries'.map fun e => e.1.1).eraseDups ∧
        ∀ key, lastValue key entries = lastValue key entries' := by
  intro matrix
  refine ⟨fun routine size result => ?_, fun routine size => ?_,
    ResultsMatrix.names_ofList entries, fun later => ?_, fun routine row h => ⟨?_, ?_⟩,
    fun _ _ _ => ResultsMatrix.get?_eq_some_iff.symm, fun entries' => ⟨fun h => ⟨?_, ?_⟩, ?_⟩⟩
  · rw [ResultsMatrix.get?_ofList, lastValue_eq_some_iff_exists]
  · rw [ResultsMatrix.get?_ofList, lastValue_eq_none_iff]
  · rw [ResultsMatrix.names_ofList, ResultsMatrix.names_ofList, List.map_append,
      List.eraseDups_append]
    exact List.prefix_append _ _
  · exact ResultsMatrix.entries_ne_nil_of_mem_rows h
  · exact List.pairwise_map.mpr (row.ascending.imp Nat.compare_eq_lt.mp)
  · rw [← ResultsMatrix.names_ofList, ← ResultsMatrix.names_ofList]
    exact congrArg (fun m => m.rows.map Prod.fst) h
  · rintro ⟨routine, size⟩
    rw [← ResultsMatrix.get?_ofList, ← ResultsMatrix.get?_ofList]
    exact congrArg (fun m => m.get? routine size) h
  · rintro ⟨hnames, hlast⟩
    refine ResultsMatrix.ext_get? ?_ fun routine size => ?_
    · rw [ResultsMatrix.names_ofList, ResultsMatrix.names_ofList, hnames]
    · rw [ResultsMatrix.get?_ofList, ResultsMatrix.get?_ofList, hlast]

/-- Two routines at two sizes, where the result of one pair is inserted a second time. -/
theorem matrix_of_inserts_overwritten :
    let cell (iterations : Nat) : CellResult :=
      { iterations, rawReal := .zero false, realPerIteration := .zero false,
        userPerIteration := .zero false, value := "", verified := none }
    let earlier := [(("b", 8), cell 1), (("a", 4), cell 2), (("b", 4), cell 3)]
    let matrix := ResultsMatrix.ofList (earlier ++ [(("a", 4), cell 4)])
    matrix.rows.map Prod.fst = ["b", "a"] ∧ matrix.get? "a" 4 = some (cell 4) ∧
      matrix.get? "a" 8 = none := by
  intro cell earlier matrix
  obtain ⟨hget, hnone, hnames, -⟩ := matrix_of_inserts (earlier ++ [(("a", 4), cell 4)])
  exact ⟨hnames, (hget "a" 4 (cell 4)).mpr ⟨earlier, [], rfl, List.not_mem_nil⟩,
    (hnone "a" 8).mpr (by decide)⟩

end RoutineTiming
