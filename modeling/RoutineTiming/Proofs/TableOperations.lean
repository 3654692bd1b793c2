import Mathlib.Data.List.Induction
import RoutineTiming.Proofs.IterationCount
import RoutineTiming.Proofs.KeyedStore

/-!
# Operations on tables of iteration counts

Counts are set, read and doubled in any order. What a table holds at a pair is settled by the last
count that was set there and the number of doublings of this pair since; the operations on other
pairs, of the same routine or of the same size, do not matter.

## Main definitions

* `TableOperation` : the operations on a table.
* `TableOperation.perform` : the answer of an operation, and the table afterwards.
* `IterationTable.after` : a table after several operations.

## Main results

* `IterationTable.get?_perform` : what one operation does to each pair.
* `TableOperation.exists_last_set` : where a pair is set for the last time.
* `IterationTable.get?_after` : what operations leave at a pair that they do not set.
* `counts_after_operations` : what a table holds after any operations.
-/

namespace RoutineTiming

/-- An operation on a table of iteration counts. -/
inductive TableOperation where
  | set (routine : String) (size count : Nat)
  | get (routine : String) (size : Nat)
  | double (routine : String) (size : Nat)
  deriving DecidableEq, Repr

namespace TableOperation

/-- The pair that an operation is about. -/
def key : TableOperation → String × Nat
  | .set routine size _ => (routine, size)
  | .get routine size => (routine, size)
  | .double routine size => (routine, size)

/-- A count that is set is a number of 64 bits. -/
def InWords : TableOperation → Prop
  | .set _ _ count => count ≤ maxWord
  | _ => True

instance : (operation : TableOperation) → Decidable operation.InWords
  | .set _ _ count => inferInstanceAs (Decidable (count ≤ maxWord))
  | .get _ _ => isTrue trivial
  | .double _ _ => isTrue trivial

/-- The answer of an operation, if it has one to give, and the table afterwards. -/
def perform : TableOperation → StateM IterationTable (Option Nat)
  | .set routine size count => fun table => (none, table.set routine size count)
  | .get routine size => fun table => (table.get? routine size, table)
  | .double routine size => IterationTable.doubleInPlace routine size

/-- What an operation makes of the count at its own pair. -/
def effect : TableOperation → Option Nat → Option Nat
  | .set _ _ count, _ => some count
  | .get _ _, held => held
  | .double _ _, held => held.map doubled

/-- A pair that operations set is set for the last time by one of them. -/
theorem exists_last_set {operations : List TableOperation} {routine : String} {size count : Nat}
    (h : .set routine size count ∈ operations) :
    ∃ earlier last later, operations = earlier ++ .set routine size last :: later ∧
      ∀ count', .set routine size count' ∉ later := by
  obtain ⟨earlier, _, later, heq, ⟨last, rfl⟩, hlater⟩ :=
    exists_last_of_exists (p := fun operation => ∃ count, operation = .set routine size count)
      ⟨_, h, count, rfl⟩
  exact ⟨earlier, last, later, heq, fun count' h' => hlater _ h' ⟨count', rfl⟩⟩

end TableOperation

namespace IterationTable

/-- The table after several operations. -/
def after (table : IterationTable) (operations : List TableOperation) : IterationTable :=
  operations.foldl (fun table operation => (operation.perform.run table).2) table

variable (table : IterationTable)

theorem after_append (operations later : List TableOperation) :
    table.after (operations ++ later) = (table.after operations).after later :=
  List.foldl_append

/-- An operation has its effect at its own pair and no effect at any other pair. -/
theorem get?_perform (operation : TableOperation) (routine : String) (size : Nat) :
    (operation.perform.run table).2.get? routine size =
      if (routine, size) = operation.key then operation.effect (table.get? routine size)
      else table.get? routine size := by
  simp only [Prod.ext_iff]
  cases operation with
  | set routine' size' count => exact get?_set table routine' routine size' size count
  | get routine' size' => exact (ite_self _).symm
  | double routine' size' =>
    refine (get?_double table routine' routine size' size).trans (ite_congr rfl ?_ fun _ => rfl)
    rintro ⟨rfl, rfl⟩
    rfl

/-- At a pair that operations do not set, the count is doubled as often as they say. -/
theorem get?_after {operations : List TableOperation} {routine : String} {size : Nat}
    (hset : ∀ count, .set routine size count ∉ operations)
    (hword : ∀ count ∈ table.get? routine size, count ≤ maxWord) :
    (table.after operations).get? routine size =
      (table.get? routine size).map fun count =>
        doubledTimes count (operations.count (.double routine size)) := by
  -- from the back, where the operation stands whose effect is seen
  induction operations using List.reverseRecOn with
  | nil =>
    cases hcount : table.get? routine size with
    | none => exact hcount
    | some count => exact hcount.trans (congrArg some (doubledTimes_zero (hword count hcount)).symm)
  | append_singleton operations operation ih =>
    have hearlier := ih fun count h => hset count (List.mem_append_left _ h)
    rw [after_append]
    refine (get?_perform _ operation routine size).trans ?_
    rw [hearlier, List.count_append, List.count_singleton]
    cases operation with
    | set routine' size' count =>
      have hother : (routine, size) ≠ (routine', size') := by
        rintro ⟨⟩
        exact hset count (List.mem_append_right _ List.mem_cons_self)
      rw [TableOperation.key, if_neg hother]
      rfl
    | get routine' size' => exact ite_self _
    | double routine' size' =>
      by_cases hown : (routine, size) = (routine', size')
      · cases hown
        rw [TableOperation.key, if_pos rfl, TableOperation.effect, Option.map_map, beq_self_eq_true,
          if_pos rfl]
        simp only [Function.comp_def, doubled_doubledTimes]
      · have hne : TableOperation.double routine' size' ≠ .double routine size := by
          rintro ⟨⟩
          exact hown rfl
        rw [TableOperation.key, if_neg hown, beq_eq_false_iff_ne.mpr hne]
        rfl

/-- The last count that operations set at a pair is doubled as often as they say afterwards. -/
theorem get?_after_set {earlier later : List TableOperation} {routine : String} {size count : Nat}
    (hword : count ≤ maxWord) (hlater : ∀ count', .set routine size count' ∉ later) :
    (table.after (earlier ++ .set routine size count :: later)).get? routine size =
      some (doubledTimes count (later.count (.double routine size))) := by
  have hset : ((table.after earlier).set routine size count).get? routine size = some count :=
    (get?_set ..).trans (if_pos ⟨rfl, rfl⟩)
  have hcount : ∀ count' ∈ ((table.after earlier).set routine size count).get? routine size,
      count' ≤ maxWord := by
    rw [hset]
    rintro _ ⟨⟩
    exact hword
  have hafter := get?_after _ hlater hcount
  rw [hset] at hafter
  rw [after_append]
  exact hafter

/-- Operations on the empty table leave a pair without a count if they do not set one. -/
theorem get?_after_empty {operations : List TableOperation} {routine : String} {size : Nat}
    (hset : ∀ count, .set routine size count ∉ operations) :
    (after {} operations).get? routine size = none :=
  get?_after {} hset fun _ h => nomatch h

/-- Operations leave a pair that they set with a count. -/
theorem exists_get?_after {operations : List TableOperation} {routine : String} {size count : Nat}
    (hwords : ∀ operation ∈ operations, operation.InWords)
    (h : .set routine size count ∈ operations) :
    ∃ count', (after {} operations).get? routine size = some count' := by
  obtain ⟨earlier, last, later, rfl, hlater⟩ := TableOperation.exists_last_set h
  have hword := hwords (.set routine size last) (List.mem_append_right _ List.mem_cons_self)
  exact ⟨_, get?_after_set {} hword hlater⟩

variable {table}

theorem doubleInPlace_of_none {routine : String} {size : Nat}
    (h : table.get? routine size = none) :
    (doubleInPlace routine size).run table = (none, table) := by
  have hdouble : table.double routine size = table := by rw [double, h]
  exact Prod.ext (congrArg (Option.map doubled) h) hdouble

/-- Doubling in place answers with the count that the pair has afterwards. -/
theorem doubleInPlace_of_some {routine : String} {size count : Nat}
    (h : table.get? routine size = some count) :
    (doubleInPlace routine size).run table = (some (doubled count), table.double routine size) ∧
      (table.double routine size).get? routine size = some (doubled count) := by
  constructor
  · exact Prod.ext (congrArg (Option.map doubled) h) rfl
  · rw [get?_double, if_pos ⟨rfl, rfl⟩, h, Option.map_some]

end IterationTable

/-- **A table is a map of counts that are doubled up to a limit.** After any operations on the
empty table, a pair has a count exactly if one was set, and then it is the last one that was set,
doubled as often as the pair was doubled since. Doubling answers with the count that the pair has
afterwards, and it leaves the whole table as it is if the pair has none. No operation changes the
count of another pair. -/
theorem counts_after_operations {operations : List TableOperation}
    (hwords : ∀ operation ∈ operations, operation.InWords) :
    let table := ({} : IterationTable).after operations
    (∀ routine size, table.get? routine size = none ↔
      ∀ count, .set routine size count ∉ operations) ∧
    (∀ routine size count earlier later,
      operations = earlier ++ .set routine size count :: later →
      (∀ count', .set routine size count' ∉ later) →
      table.get? routine size =
        some (doubledTimes count (later.count (.double routine size)))) ∧
    (∀ routine size, (∀ count, .set routine size count ∉ operations) →
      (TableOperation.double routine size).perform.run table = (none, table)) ∧
    (∀ routine size count, .set routine size count ∈ operations → ∃ count' after,
      (TableOperation.double routine size).perform.run table = (some count', after) ∧
        after.get? routine size = some count') ∧
    ∀ (operation : TableOperation) (routine : String) (size : Nat),
      (routine, size) ≠ operation.key →
      (operation.perform.run table).2.get? routine size = table.get? routine size := by
  intro table
  refine ⟨fun routine size => ⟨fun hnone count h => ?_, IterationTable.get?_after_empty⟩,
    fun routine size count earlier later heq hlater => ?_, fun routine size h => ?_,
    fun routine size count h => ?_, fun operation routine size hother => ?_⟩
  · obtain ⟨count', hcount⟩ := IterationTable.exists_get?_after hwords h
    exact nomatch hnone.symm.trans hcount
  · subst heq
    have hword := hwords (.set routine size count) (List.mem_append_right _ List.mem_cons_self)
    exact IterationTable.get?_after_set {} hword hlater
  · exact IterationTable.doubleInPlace_of_none (IterationTable.get?_after_empty h)
  · obtain ⟨count', hcount⟩ := IterationTable.exists_get?_after hwords h
    obtain ⟨hanswer, hafter⟩ := IterationTable.doubleInPlace_of_some hcount
    exact ⟨_, _, hanswer, hafter⟩
  · rw [IterationTable.get?_perform, if_neg hother]

/-- A count that is set a second time and then doubled beyond the limit, among operations on other
pairs of its routine and its size. -/
theorem counts_after_operations_saturated :
    let earlier : List TableOperation := [.set "a" 8 5, .double "a" 8, .set "b" 8 3]
    let later : List TableOperation :=
      [.double "a" 8, .double "b" 8, .double "a" 9, .get "a" 8, .double "a" 8]
    let operations := earlier ++ .set "a" 8 (2 ^ 63 - 1) :: later
    let table := ({} : IterationTable).after operations
    (∀ operation ∈ operations, operation.InWords) ∧
    table.get? "a" 8 = some maxWord ∧
    (TableOperation.double "a" 9).perform.run table = (none, table) := by
  intro earlier later operations table
  have hwords : ∀ operation ∈ operations, operation.InWords := by decide
  obtain ⟨-, hcount, hmissing, -⟩ := counts_after_operations hwords
  have hset : ∀ count, .set "a" 8 count ∉ later := by simp [later]
  have hnever : ∀ count, .set "a" 9 count ∉ operations := by simp [operations, earlier, later]
  have hlimit : doubledTimes (2 ^ 63 - 1) (later.count (.double "a" 8)) = maxWord := by decide
  exact ⟨hwords, hlimit ▸ hcount "a" 8 (2 ^ 63 - 1) earlier later rfl hset, hmissing "a" 9 hnever⟩

end RoutineTiming
