import Mathlib.Logic.Function.Iterate
import RoutineTiming.IterationTable

/-!
# Counts that are doubled again and again

A count that is doubled several times grows by a power of two until it reaches the largest number
of 64 bits. A count other than zero is there after at most 64 steps, so it cannot be doubled more
often.

## Main definitions

* `doubledTimes` : a count after a number of doublings.

## Main results

* `doubled_doubledTimes`, `doubledTimes_doubledTimes` : one more doubling, and some more.
* `lt_of_doubledTimes_lt` : a count still grows only before its 64th doubling.
* `IterationTable.get?_iterate_double` : a table in which one count was doubled several times.
-/

namespace RoutineTiming

/-- A count after `k` doublings, up to the largest number of 64 bits. -/
def doubledTimes (count k : Nat) : Nat := Nat.min (count * 2 ^ k) maxWord

theorem doubledTimes_zero {count : Nat} (h : count ≤ maxWord) : doubledTimes count 0 = count := by
  rw [doubledTimes, Nat.pow_zero, Nat.mul_one]
  exact Nat.min_eq_left h

/-- Doubling a count whose doublings were cut off is the same as cutting off once at the end. -/
theorem doubled_doubledTimes (count k : Nat) :
    doubled (doubledTimes count k) = doubledTimes count (k + 1) := by
  have hpow : count * 2 ^ (k + 1) = 2 * (count * 2 ^ k) := by rw [Nat.pow_succ]; ac_rfl
  rw [doubled, doubledTimes, doubledTimes, hpow]
  show min (2 * min (count * 2 ^ k) maxWord) maxWord = min (2 * (count * 2 ^ k)) maxWord
  omega

theorem doubledTimes_le (count k : Nat) : doubledTimes count k ≤ maxWord := Nat.min_le_right _ _

/-- Doubling a doubled count some more times. -/
theorem doubledTimes_doubledTimes (count i j : Nat) :
    doubledTimes (doubledTimes count i) j = doubledTimes count (i + j) := by
  induction j with
  | zero => exact doubledTimes_zero (doubledTimes_le count i)
  | succ j ih => rw [← doubled_doubledTimes, ih, doubled_doubledTimes, Nat.add_assoc]

theorem doubledTimes_eq_maxWord {count k : Nat} (hcount : count ≠ 0) (hk : 64 ≤ k) :
    doubledTimes count k = maxWord := by
  have hpow : 2 ^ 64 ≤ 2 ^ k := Nat.pow_le_pow_right (by decide) hk
  have hmul : 2 ^ k ≤ count * 2 ^ k := Nat.le_mul_of_pos_left _ (Nat.pos_of_ne_zero hcount)
  refine Nat.min_eq_right (Nat.le_trans ?_ (Nat.le_trans hpow hmul))
  decide

/-- A count other than zero still grows only before its 64th doubling. -/
theorem lt_of_doubledTimes_lt {count k : Nat} (hcount : count ≠ 0)
    (h : doubledTimes count k < doubledTimes count (k + 1)) : k < 64 := by
  by_contra hk
  rw [doubledTimes_eq_maxWord hcount (by omega), doubledTimes_eq_maxWord hcount (by omega)] at h
  exact Nat.lt_irrefl _ h

/-! ### Tables -/

namespace IterationTable

/-- A table in which the count of one pair was doubled several times. -/
theorem get?_iterate_double (table : IterationTable) {routine : String} {size count : Nat}
    (hcount : table.get? routine size = some count) (hword : count ≤ maxWord) (k : Nat)
    (routine' : String) (size' : Nat) :
    ((fun t : IterationTable => t.double routine size)^[k] table).get? routine' size' =
      if routine' = routine ∧ size' = size then some (doubledTimes count k)
      else table.get? routine' size' := by
  induction k generalizing routine' size' with
  | zero =>
    rw [Function.iterate_zero_apply, doubledTimes_zero hword]
    split
    · next h => rw [h.1, h.2, hcount]
    · rfl
  | succ k ih =>
    have hown := ih routine size
    rw [if_pos ⟨rfl, rfl⟩] at hown
    rw [Function.iterate_succ_apply', get?_double, hown, Option.map_some, doubled_doubledTimes, ih]
    split <;> rfl

end IterationTable

end RoutineTiming
