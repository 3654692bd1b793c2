import RoutineTiming.OrderedMap
import RoutineTiming.Measurement

/-!
# Results by routine and size

The results of a run form a matrix whose rows are routines in the order in which each was first
entered, and whose row entries are sizes in ascending order.

## Main definitions

* `ResultsMatrix` : the matrix; each routine has one row.
* `ResultsMatrix.insert`, `ResultsMatrix.get?` : writing and reading a cell.

## Main results

* `ResultsMatrix.get?_insert` : reading after writing.
* `ResultsMatrix.get?_eq_some_iff` : what is read are the entries of the rows.
-/

namespace RoutineTiming

/-- The results of one routine by size. -/
abbrev ResultsRow := OrderedMap Nat CellResult

namespace ResultsMatrix

/-- The rows with a cell entered: in the row of its routine, or in a new last row. -/
def insertCell (routine : String) (size : Nat) (result : CellResult) :
    List (String × ResultsRow) → List (String × ResultsRow)
  | [] => [(routine, OrderedMap.empty.insert size result)]
  | (name, row) :: rest =>
    if name = routine then (name, row.insert size result) :: rest
    else (name, row) :: insertCell routine size result rest

theorem names_insertCell (routine : String) (size : Nat) (result : CellResult)
    (rows : List (String × ResultsRow)) :
    (insertCell routine size result rows).map Prod.fst =
      if routine ∈ rows.map Prod.fst then rows.map Prod.fst
      else rows.map Prod.fst ++ [routine] := by
  induction rows with
  | nil => simp [insertCell]
  | cons head rest ih =>
    by_cases h : head.1 = routine
    · simp [insertCell, h]
    · have h' : routine ≠ head.1 := fun e => h e.symm
      simp only [insertCell, h, if_false, List.map_cons, ih, List.mem_cons, h', false_or]
      split <;> simp

/-- The row of a routine in a list of rows. -/
def findRow (routine : String) : List (String × ResultsRow) → Option ResultsRow
  | [] => none
  | (name, row) :: rest => if name = routine then some row else findRow routine rest

theorem findRow_insertCell (routine routine' : String) (size : Nat) (result : CellResult)
    (rows : List (String × ResultsRow)) :
    findRow routine' (insertCell routine size result rows) =
      if routine' = routine then
        some (((findRow routine rows).getD OrderedMap.empty).insert size result)
      else findRow routine' rows := by
  induction rows with
  | nil =>
    by_cases h : routine' = routine
    · simp [insertCell, findRow, h]
    · have : routine ≠ routine' := fun e => h e.symm
      simp [insertCell, findRow, h, this]
  | cons head rest ih =>
    by_cases hh : head.1 = routine
    · by_cases h : routine' = routine
      · simp [insertCell, findRow, hh, h]
      · have : routine ≠ routine' := fun e => h e.symm
        simp [insertCell, findRow, hh, h, this]
    · by_cases h : routine' = routine
      · subst h
        simp [insertCell, findRow, hh, ih]
      · simp [insertCell, findRow, hh, ih, h]

theorem findRow_eq_some_iff {rows : List (String × ResultsRow)} (h : (rows.map Prod.fst).Nodup)
    {routine : String} {row : ResultsRow} :
    findRow routine rows = some row ↔ (routine, row) ∈ rows := by
  induction rows with
  | nil => simp [findRow]
  | cons head rest ih =>
    obtain ⟨hhead, hrest⟩ := List.nodup_cons.1 h
    rw [findRow]
    split
    · next heq =>
      subst heq
      have hnot : (head.1, row) ∉ rest := fun hmem =>
        hhead (List.mem_map.2 ⟨_, hmem, rfl⟩)
      simp [hnot, Prod.ext_iff, eq_comm]
    · next hne =>
      have hne' : routine ≠ head.1 := fun e => hne e.symm
      rw [ih hrest]
      simp [Prod.ext_iff, hne']

end ResultsMatrix

/-- The results of a run: one row per routine, in the order of first entry. -/
structure ResultsMatrix where
  rows : List (String × ResultsRow) := []
  distinct : (rows.map Prod.fst).Nodup := by simp

namespace ResultsMatrix

@[ext]
theorem ext {m m' : ResultsMatrix} (h : m.rows = m'.rows) : m = m' := by
  cases m
  cases m'
  cases h
  rfl

/-- The matrix with a cell entered, in place of an earlier one of the same routine and size. -/
def insert (matrix : ResultsMatrix) (routine : String) (size : Nat) (result : CellResult) :
    ResultsMatrix where
  rows := insertCell routine size result matrix.rows
  distinct := by
    rw [names_insertCell]
    split
    · exact matrix.distinct
    · next h =>
      refine List.nodup_append.2 ⟨matrix.distinct, by simp, fun a ha b hb hab => h ?_⟩
      rwa [← List.mem_singleton.1 hb, ← hab]

/-- The row of a routine. -/
def row? (matrix : ResultsMatrix) (routine : String) : Option ResultsRow :=
  findRow routine matrix.rows

/-- The cell of a routine and a size. -/
def get? (matrix : ResultsMatrix) (routine : String) (size : Nat) : Option CellResult :=
  (matrix.row? routine).bind fun row => row.get? size

/-- A cell is read exactly if it is an entry of the row of its routine. -/
theorem get?_eq_some_iff {matrix : ResultsMatrix} {routine : String} {size : Nat}
    {result : CellResult} :
    matrix.get? routine size = some result ↔
      ∃ row, (routine, row) ∈ matrix.rows ∧ (size, result) ∈ row.entries := by
  rw [get?, row?, Option.bind_eq_some_iff]
  refine exists_congr fun row => and_congr ?_ ?_
  · exact findRow_eq_some_iff matrix.distinct
  · exact (OrderedMap.mem_entries_iff row size result).symm

theorem get?_insert (matrix : ResultsMatrix) (routine routine' : String) (size size' : Nat)
    (result : CellResult) :
    (matrix.insert routine size result).get? routine' size' =
      if routine' = routine ∧ size' = size then some result
      else matrix.get? routine' size' := by
  simp only [get?, row?, insert, findRow_insertCell]
  by_cases hr : routine' = routine
  · subst hr
    by_cases hs : size' = size
    · simp [hs, OrderedMap.get?_insert]
    · cases h : findRow routine' matrix.rows <;> simp [hs, OrderedMap.get?_insert]
  · simp [hr]

end ResultsMatrix

end RoutineTiming
