import RoutineTiming.OrderedMap
import RoutineTiming.Text.Numeral

/-!
# Iteration counts

The table holds an iteration count for pairs of a routine and a size. A count that is swamped by
startup overhead is doubled in place, up to the largest number of 64 bits.

## Main definitions

* `IterationTable.get?`, `IterationTable.set`, `IterationTable.double` : the operations.
* `IterationTable.doubleInPlace` : doubling that answers with the new count.
* `doubled` : twice a count, up to the limit.

## Main results

* `IterationTable.get?_set`, `IterationTable.get?_double` : what each operation does to each pair.
-/

namespace RoutineTiming

/-- Iteration counts by routine and size. -/
structure IterationTable where
  rows : OrderedMap String (OrderedMap Nat Nat) := ∅
  deriving DecidableEq

/-- Twice a count, up to the largest number of 64 bits. -/
def doubled (count : Nat) : Nat := Nat.min (2 * count) maxWord

namespace IterationTable

/-- The count of a pair. -/
def get? (table : IterationTable) (routine : String) (size : Nat) : Option Nat :=
  (table.rows.get? routine).bind fun row => row.get? size

/-- The table with the count of a pair set. -/
def set (table : IterationTable) (routine : String) (size count : Nat) : IterationTable :=
  ⟨table.rows.insert routine (((table.rows.get? routine).getD ∅).insert size count)⟩

/-- The table with the count of a pair doubled, if the pair has one. -/
def double (table : IterationTable) (routine : String) (size : Nat) : IterationTable :=
  match table.get? routine size with
  | some count => table.set routine size (doubled count)
  | none => table

/-- Doubling in place: the new count, if the pair has one, and the table afterwards. -/
def doubleInPlace (routine : String) (size : Nat) : StateM IterationTable (Option Nat) :=
  fun table => ((table.get? routine size).map doubled, table.double routine size)

theorem get?_set (table : IterationTable) (routine routine' : String) (size size' count : Nat) :
    (table.set routine size count).get? routine' size' =
      if routine' = routine ∧ size' = size then some count else table.get? routine' size' := by
  simp only [get?, set, OrderedMap.get?_insert]
  by_cases hr : routine' = routine
  · subst hr
    by_cases hs : size' = size
    · simp [hs, OrderedMap.get?_insert]
    · cases h : table.rows.get? routine' <;>
        simp [hs, OrderedMap.get?_insert, EmptyCollection.emptyCollection]
  · simp [hr]

theorem get?_double (table : IterationTable) (routine routine' : String) (size size' : Nat) :
    (table.double routine size).get? routine' size' =
      if routine' = routine ∧ size' = size then (table.get? routine size).map doubled
      else table.get? routine' size' := by
  unfold double
  split
  · next count h => simp [get?_set, h]
  · next h =>
    split
    · next heq => simp [heq.1, heq.2, h]
    · rfl

end IterationTable

end RoutineTiming
