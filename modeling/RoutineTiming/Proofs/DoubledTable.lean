import Mathlib.Algebra.GroupWithZero.Nat
import RoutineTiming.Proofs.IterationCount

/-!
# Tables with many doubled counts

A run doubles the counts of a table pair by pair. Each pair is left with its first count, doubled as
often as its entries say, whatever was done to other pairs in between.

## Main definitions

* `doublingsOf` : how often entries double the count of a pair.
* `IterationTable.InWords` : the tables with counts of 64 bits.
* `IterationTable.doubleAll` : a table with counts doubled.

## Main results

* `IterationTable.get?_doubleAll` : the counts of such a table.
* `doublingsOf_of_mem` : a pair with one entry is doubled as often as this entry says.
-/

namespace RoutineTiming

/-- How often entries double the count of a pair. -/
def doublingsOf (key : String × Nat) (entries : List ((String × Nat) × Nat)) : Nat :=
  (entries.map fun e => if e.1 = key then e.2 else 0).sum

theorem doublingsOf_cons (key : String × Nat) (e : (String × Nat) × Nat)
    (entries : List ((String × Nat) × Nat)) :
    doublingsOf key (e :: entries) = (if e.1 = key then e.2 else 0) + doublingsOf key entries :=
  List.sum_cons

theorem doublingsOf_append (key : String × Nat) (entries entries' : List ((String × Nat) × Nat)) :
    doublingsOf key (entries ++ entries') = doublingsOf key entries + doublingsOf key entries' := by
  rw [doublingsOf, List.map_append, List.sum_append]
  rfl

theorem doublingsOf_of_notMem {key : String × Nat} {entries : List ((String × Nat) × Nat)}
    (h : key ∉ entries.map Prod.fst) : doublingsOf key entries = 0 := by
  induction entries with
  | nil => rfl
  | cons e entries ih =>
    rw [List.map_cons, List.mem_cons, not_or] at h
    rw [doublingsOf_cons, ih h.2, if_neg fun heq => h.1 heq.symm]

/-- A pair with one entry is doubled as often as this entry says. -/
theorem doublingsOf_of_mem {entries : List ((String × Nat) × Nat)}
    (h : (entries.map Prod.fst).Nodup) {e : (String × Nat) × Nat} (he : e ∈ entries) :
    doublingsOf e.1 entries = e.2 := by
  induction entries with
  | nil => cases he
  | cons e' entries ih =>
    obtain ⟨hnew, hrest⟩ := List.nodup_cons.mp h
    rw [doublingsOf_cons]
    rcases List.mem_cons.mp he with rfl | he
    · rw [if_pos rfl, doublingsOf_of_notMem hnew, Nat.add_zero]
    · have hne : e'.1 ≠ e.1 := fun heq => hnew (heq ▸ List.mem_map_of_mem he)
      rw [if_neg hne, ih hrest he, Nat.zero_add]

/-- If every pair has at most one entry, no pair is doubled more often than any entry says. -/
theorem doublingsOf_le {entries : List ((String × Nat) × Nat)}
    (h : (entries.map Prod.fst).Nodup) {bound : Nat} (hbound : ∀ e ∈ entries, e.2 ≤ bound)
    (key : String × Nat) : doublingsOf key entries ≤ bound := by
  by_cases hkey : key ∈ entries.map Prod.fst
  · obtain ⟨e, he, rfl⟩ := List.mem_map.mp hkey
    rw [doublingsOf_of_mem h he]
    exact hbound e he
  · rw [doublingsOf_of_notMem hkey]
    exact Nat.zero_le bound

namespace IterationTable

/-- All counts of the table are numbers of 64 bits. -/
def InWords (table : IterationTable) : Prop :=
  ∀ routine size, ∀ count ∈ table.get? routine size, count ≤ maxWord

/-- The table with the count of a pair doubled several times. -/
def doubleBy (table : IterationTable) (key : String × Nat) (k : Nat) : IterationTable :=
  (fun t : IterationTable => t.double key.1 key.2)^[k] table

/-- The table with counts doubled, each as often as the entries say. -/
def doubleAll (table : IterationTable) (entries : List ((String × Nat) × Nat)) : IterationTable :=
  entries.foldl (fun table e => table.doubleBy e.1 e.2) table

variable {table : IterationTable}

/-- Counts of 64 bits are not changed by no doubling at all. -/
theorem InWords.map_doubledTimes_zero (h : table.InWords) (routine : String) (size : Nat) :
    (table.get? routine size).map (fun count => doubledTimes count 0) =
      table.get? routine size := by
  cases hcount : table.get? routine size with
  | none => rfl
  | some count => exact congrArg some (doubledTimes_zero (h routine size count hcount))

theorem doubleBy_of_none {key : String × Nat} (h : table.get? key.1 key.2 = none) (k : Nat) :
    table.doubleBy key k = table := by
  have hdouble : table.double key.1 key.2 = table := by rw [double, h]
  exact Function.iterate_fixed hdouble k

/-- The counts after one of them was doubled several times. -/
theorem get?_doubleBy (h : table.InWords) (key : String × Nat) (k : Nat) (routine : String)
    (size : Nat) :
    (table.doubleBy key k).get? routine size =
      (table.get? routine size).map fun count =>
        doubledTimes count (if key = (routine, size) then k else 0) := by
  by_cases hkey : key = (routine, size)
  · subst hkey
    rw [if_pos rfl]
    cases hcount : table.get? routine size with
    | none => rw [doubleBy_of_none hcount, hcount, Option.map_none]
    | some count =>
      rw [doubleBy, get?_iterate_double table hcount (h routine size count hcount),
        if_pos ⟨rfl, rfl⟩, Option.map_some]
  · rw [if_neg hkey, h.map_doubledTimes_zero]
    cases hcount : table.get? key.1 key.2 with
    | none => rw [doubleBy_of_none hcount]
    | some count =>
      rw [doubleBy, get?_iterate_double table hcount (h key.1 key.2 count hcount),
        if_neg fun heq => hkey (Prod.ext heq.1.symm heq.2.symm)]

theorem InWords.doubleBy (h : table.InWords) (key : String × Nat) (k : Nat) :
    (table.doubleBy key k).InWords := by
  intro routine size count hcount
  rw [get?_doubleBy h] at hcount
  obtain ⟨first, -, rfl⟩ := Option.map_eq_some_iff.mp hcount
  exact doubledTimes_le _ _

/-- Each count is doubled as often as the entries of its pair say. -/
theorem get?_doubleAll (h : table.InWords) (entries : List ((String × Nat) × Nat))
    (routine : String) (size : Nat) :
    (table.doubleAll entries).get? routine size =
      (table.get? routine size).map fun count =>
        doubledTimes count (doublingsOf (routine, size) entries) := by
  induction entries generalizing table with
  | nil => exact (h.map_doubledTimes_zero routine size).symm
  | cons e entries ih =>
    have hrest := ih (h.doubleBy e.1 e.2)
    rw [get?_doubleBy h, Option.map_map] at hrest
    simp only [Function.comp_def, doubledTimes_doubledTimes, ← doublingsOf_cons] at hrest
    exact hrest

/-- The count of a pair with one entry is doubled as often as this entry says. -/
theorem get?_doubleAll_of_mem (h : table.InWords) {entries : List ((String × Nat) × Nat)}
    (hkeys : (entries.map Prod.fst).Nodup) {routine : String} {size count k : Nat}
    (hcount : table.get? routine size = some count) (hmem : ((routine, size), k) ∈ entries) :
    (table.doubleAll entries).get? routine size = some (doubledTimes count k) := by
  rw [get?_doubleAll h, doublingsOf_of_mem hkeys hmem, hcount, Option.map_some]

/-- A pair without an entry keeps its count. -/
theorem get?_doubleAll_of_notMem (h : table.InWords) {entries : List ((String × Nat) × Nat)}
    {routine : String} {size : Nat} (hmem : (routine, size) ∉ entries.map Prod.fst) :
    (table.doubleAll entries).get? routine size = table.get? routine size := by
  rw [get?_doubleAll h, doublingsOf_of_notMem hmem, h.map_doubledTimes_zero]

end IterationTable

end RoutineTiming
