import RoutineTiming.Proofs.DoubledTable
import RoutineTiming.ResultsMatrix

/-!
# Tables and matrices of some routines

A table or a matrix can be restricted to the routines that satisfy a condition. What is written for
these routines can as well be written after the restriction, and what is written for other routines
leaves no trace in it.

## Main definitions

* `IterationTable.restrict`, `ResultsMatrix.restrict` : the restrictions.

## Main results

* `restrict_foldl` : the restriction after a list of writes.
* `IterationTable.restrict_doubleAll` : the restriction of a table with doubled counts.
* `ResultsMatrix.restrict_insert` : the restriction of a matrix with a cell entered.
-/

namespace RoutineTiming

/-- If each write is either kept or lost in a restriction, so are the writes of a list. -/
theorem restrict_foldl {store entry : Type} (restrict : store → store)
    {set : store → entry → store} {keep : entry → Bool}
    (hset : ∀ s e, restrict (set s e) = if keep e = true then set (restrict s) e else restrict s)
    (entries : List entry) (s : store) :
    restrict (entries.foldl set s) = (entries.filter keep).foldl set (restrict s) := by
  induction entries generalizing s with
  | nil => rfl
  | cons e entries ih =>
    rw [List.foldl_cons, ih, hset, List.filter_cons]
    split <;> rfl

/-! ### Maps -/

namespace OrderedMap

variable {κ ν : Type} [Ord κ] [Std.LawfulEqOrd κ]

theorem get?_restrict (condition : κ → Bool) (m : OrderedMap κ ν) (k : κ) :
    (m.restrict condition).get? k = if condition k = true then m.get? k else none := by
  refine Option.ext fun v => ?_
  rw [← mem_entries_iff, restrict, List.mem_filter, mem_entries_iff]
  by_cases hk : condition k = true <;> simp [hk]

theorem restrict_insert [DecidableEq κ] [Std.TransOrd κ] (condition : κ → Bool)
    (m : OrderedMap κ ν) (k : κ) (v : ν) :
    (m.insert k v).restrict condition =
      if condition k = true then (m.restrict condition).insert k v else m.restrict condition := by
  refine ext_get? fun k' => ?_
  by_cases hk : condition k = true
  · rw [if_pos hk, get?_restrict, get?_insert, get?_insert, get?_restrict]
    by_cases heq : k' = k
    · rw [if_pos heq, if_pos heq, heq, if_pos hk]
    · rw [if_neg heq, if_neg heq]
  · rw [if_neg hk, get?_restrict, get?_insert, get?_restrict]
    by_cases heq : k' = k
    · rw [heq, if_neg hk, if_neg hk]
    · rw [if_neg heq]

end OrderedMap

/-! ### Tables of iteration counts -/

namespace IterationTable

variable (condition : String → Bool) (table : IterationTable)

/-- The counts of the routines that satisfy a condition. -/
def restrict : IterationTable := ⟨table.rows.restrict condition⟩

theorem get?_restrict (routine : String) (size : Nat) :
    (table.restrict condition).get? routine size =
      if condition routine = true then table.get? routine size else none := by
  rw [get?, restrict, OrderedMap.get?_restrict]
  split <;> rfl

theorem restrict_set (routine : String) (size count : Nat) :
    (table.set routine size count).restrict condition =
      if condition routine = true then (table.restrict condition).set routine size count
      else table.restrict condition := by
  rw [set, restrict, OrderedMap.restrict_insert]
  by_cases h : condition routine = true
  · rw [if_pos h, if_pos h, set, restrict, OrderedMap.get?_restrict, if_pos h]
  · rw [if_neg h, if_neg h, restrict]

theorem restrict_double (routine : String) (size : Nat) :
    (table.double routine size).restrict condition =
      if condition routine = true then (table.restrict condition).double routine size
      else table.restrict condition := by
  by_cases h : condition routine = true
  · rw [if_pos h, double, double, get?_restrict, if_pos h]
    split
    · rw [restrict_set, if_pos h]
    · rfl
  · rw [if_neg h, double]
    split
    · rw [restrict_set, if_neg h]
    · rfl

theorem restrict_doubleBy (key : String × Nat) (k : Nat) :
    (table.doubleBy key k).restrict condition =
      if condition key.1 = true then (table.restrict condition).doubleBy key k
      else table.restrict condition := by
  induction k generalizing table with
  | zero => exact (ite_self _).symm
  | succ k ih =>
    have hsucc (t : IterationTable) :
        t.doubleBy key (k + 1) = (t.double key.1 key.2).doubleBy key k := rfl
    rw [hsucc, ih, restrict_double, hsucc]
    split <;> rfl

/-- Doubling the counts of other routines leaves no trace. -/
theorem restrict_doubleAll (entries : List ((String × Nat) × Nat)) :
    (table.doubleAll entries).restrict condition =
      (table.restrict condition).doubleAll (entries.filter fun e => condition e.1.1) :=
  restrict_foldl _ (fun table e => restrict_doubleBy condition table e.1 e.2) entries table

end IterationTable

/-! ### Matrices of results -/

namespace ResultsMatrix

/-- The rows of the routines that satisfy a condition. -/
def restrict (condition : String → Bool) (matrix : ResultsMatrix) : ResultsMatrix where
  rows := matrix.rows.filter fun row => condition row.1
  distinct := matrix.distinct.sublist (List.filter_sublist.map _)

theorem filter_insertCell (condition : String → Bool) (routine : String) (size : Nat)
    (result : CellResult) (rows : List (String × ResultsRow)) :
    (insertCell routine size result rows).filter (fun row => condition row.1) =
      if condition routine = true then
        insertCell routine size result (rows.filter fun row => condition row.1)
      else rows.filter fun row => condition row.1 := by
  induction rows with
  | nil =>
    rw [insertCell, List.filter_cons]
    rfl
  | cons head rest ih =>
    obtain ⟨name, row⟩ := head
    rw [insertCell]
    by_cases hname : name = routine
    · subst hname
      by_cases h : condition name = true
      · simp only [h, if_true, List.filter_cons, insertCell]
      · simp only [h, if_true, List.filter_cons]
        rfl
    · rw [if_neg hname, List.filter_cons, ih, List.filter_cons]
      by_cases h : condition name = true
      · simp only [h, if_true, insertCell, if_neg hname]
        split <;> rfl
      · simp only [h]
        rfl

theorem restrict_insert (condition : String → Bool) (matrix : ResultsMatrix) (routine : String)
    (size : Nat) (result : CellResult) :
    (matrix.insert routine size result).restrict condition =
      if condition routine = true then (matrix.restrict condition).insert routine size result
      else matrix.restrict condition := by
  refine ResultsMatrix.ext ?_
  have hfilter := filter_insertCell condition routine size result matrix.rows
  by_cases h : condition routine = true
  · rw [if_pos h]
    rw [if_pos h] at hfilter
    exact hfilter
  · rw [if_neg h]
    rw [if_neg h] at hfilter
    exact hfilter

end ResultsMatrix

end RoutineTiming
