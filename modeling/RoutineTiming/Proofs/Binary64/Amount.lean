import RoutineTiming.Proofs.Binary64.Operations

/-!
# Amounts

An amount is a finite number that is zero or positive, negative zero excepted. Arithmetic on amounts
that are known to be at most some power of two gives amounts again, as long as these powers do not
come near the limit of the format. A sum of amounts is one however many they are: once the sum is
`2 ^ 53` times as large as its terms can be, it does not grow any more.

## Main definitions

* `Binary64.IsAmount` : the amounts that are at most a given power of two.

## Main results

* `Binary64.IsAmount.add`, `Binary64.IsAmount.mul`, `Binary64.IsAmount.div` : arithmetic on amounts.
* `Binary64.IsAmount.max_sub` : a difference that is kept from falling below zero.
* `Binary64.isAmount_sum` : sums of any number of amounts.
-/

namespace RoutineTiming.Binary64

/-- The number is zero or positive and at most `2 ^ k`; negative zero is no amount. -/
inductive IsAmount (k : Nat) : Binary64 → Prop
  | intro {quanta : Nat} (h : Representable quanta) (hle : quanta ≤ 2 ^ (quantumExponent + k)) :
      IsAmount k (.finite false quanta h)

theorem isAmount_zero (k : Nat) : (zero false).IsAmount k :=
  .intro representable_zero (Nat.zero_le _)

/-- A number that is rounded to at most a power of two within the format is an amount. -/
theorem isAmount_nearest {k num den : Nat} (hk : k < 1024)
    (h : nearestQuanta num den ≤ 2 ^ (quantumExponent + k)) :
    (nearest false num den).IsAmount k := by
  have hpower : 2 ^ (quantumExponent + k) < overflow :=
    Nat.pow_lt_pow_right (by decide) (by omega)
  rw [nearest, dif_pos (Nat.lt_of_le_of_lt h hpower)]
  exact .intro _ h

/-- A quotient that is at most a power of two within the format is rounded to an amount. -/
theorem isAmount_nearest_of_le {k num den : Nat} (hk : k < 1024) (hden : 0 < den)
    (h : num ≤ den * 2 ^ (quantumExponent + k)) : (nearest false num den).IsAmount k :=
  isAmount_nearest hk (nearestQuanta_le hden (spacing_dvd_two_pow _) h)

theorem isAmount_ofNat {k n : Nat} (hk : k < 1024) (h : n ≤ 2 ^ k) : (ofNat n).IsAmount k := by
  refine isAmount_nearest_of_le hk Nat.one_pos ?_
  rw [Nat.one_mul, Nat.pow_add, Nat.mul_comm]
  exact Nat.mul_le_mul_left _ h

namespace IsAmount

variable {j k : Nat} {x y : Binary64}

theorem isFinite (h : x.IsAmount k) : x.isFinite = true := by
  cases h
  rfl

theorem nonneg (h : x.IsAmount k) : 0 ≤ x := by
  cases h with
  | intro h hle => exact le_iff.mpr ⟨0, _, position_zero, rfl, Int.natCast_nonneg _⟩

theorem mono (h : x.IsAmount j) (hjk : j ≤ k) : x.IsAmount k := by
  cases h with
  | intro h hle =>
    exact .intro h (Nat.le_trans hle (Nat.pow_le_pow_right Nat.two_pos (by omega)))

/-! ### Arithmetic -/

theorem add (hx : x.IsAmount k) (hy : y.IsAmount k) (hk : k + 1 < 1024) :
    (x + y).IsAmount (k + 1) := by
  cases hx with
  | intro hp hple =>
    cases hy with
    | intro hq hqle =>
      rw [add_eq]
      refine isAmount_nearest_of_le hk Nat.one_pos ?_
      rw [Nat.one_mul, ← Nat.add_assoc, Nat.pow_succ]
      omega

theorem mul (hx : x.IsAmount j) (hy : y.IsAmount k) (hjk : j + k < 1024) :
    (x * y).IsAmount (j + k) := by
  cases hx with
  | @intro p hp hple =>
    cases hy with
    | @intro q hq hqle =>
      have hbound := calc
        p * q ≤ 2 ^ (quantumExponent + j) * 2 ^ (quantumExponent + k) := Nat.mul_le_mul hple hqle
        _ = 2 ^ quantumExponent * 2 ^ (quantumExponent + (j + k)) := by
          rw [← Nat.pow_add, ← Nat.pow_add]
          congr 1
          omega
      rw [mul_eq]
      exact isAmount_nearest_of_le hjk unit_pos hbound

/-- A quotient by a number that is at least one, and may be infinite. -/
theorem div (hx : x.IsAmount k) (hy : 1 ≤ y) (hk : k < 1024) : (x / y).IsAmount k := by
  cases hx with
  | intro hp hple =>
    rcases eq_of_one_le hy with rfl | ⟨quanta, hq, rfl, hunit⟩
    · exact isAmount_zero k
    · have hpos : 0 < quanta := Nat.lt_of_lt_of_le unit_pos hunit
      rw [div_eq hp hq (Nat.ne_of_gt hpos)]
      refine isAmount_nearest_of_le hk hpos ?_
      rw [Nat.mul_comm]
      exact Nat.mul_le_mul hunit hple

/-- A multiple by a finite number that is at least one is no smaller. -/
theorem le_mul (hx : x.IsAmount k) (hy : 1 ≤ y) (hfinite : y.isFinite = true) : x ≤ y * x := by
  cases hx with
  | intro hp hple =>
    rcases eq_of_one_le hy with rfl | ⟨quanta, hq, rfl, hunit⟩
    · cases hfinite
    · rw [mul_eq]
      exact finite_le_nearest unit_pos hp (Nat.mul_le_mul_right _ hunit)

/-- A difference in which no more is taken off than there is. -/
theorem sub (hx : x.IsAmount k) (hy : y.IsAmount j) (hle : y ≤ x) (hk : k < 1024) :
    (x - y).IsAmount k := by
  cases hx with
  | intro hp hple =>
    cases hy with
    | intro hq hqle =>
      rw [sub_eq_of_le hp hq (le_finite_iff.mp hle)]
      exact isAmount_nearest_of_le hk Nat.one_pos (by omega)

/-! ### Bounds -/

/-- An amount is not changed by keeping it from falling below zero. -/
theorem max_zero (hx : x.IsAmount k) : Binary64.max x 0 = x := by
  cases hx with
  | @intro p hp hple =>
    rw [Binary64.max, zero_eq]
    by_cases h : p = 0
    · subst h
      have hnot : ¬ zero false < finite false 0 hp := fun hlt =>
        Nat.lt_irrefl 0 (lt_finite_iff.mp hlt)
      rw [if_neg hnot, isNaN_zero, if_neg Bool.false_ne_true]
      rfl
    · exact if_pos (lt_finite_iff.mpr (Nat.pos_of_ne_zero h))

/-- A difference that is kept from falling below zero. -/
theorem max_sub (hx : x.IsAmount k) (hy : y.IsAmount j) (hk : k < 1024) :
    (Binary64.max (x - y) 0).IsAmount k := by
  by_cases hle : y ≤ x
  · have hsub := hx.sub hy hle hk
    rw [hsub.max_zero]
    exact hsub
  · cases hx with
    | intro hp hple =>
      cases hy with
      | intro hq hqle =>
        rw [le_finite_iff, Nat.not_le] at hle
        rw [sub_eq_of_lt hp hq hle, max_nearest_zero]
        exact isAmount_zero k

theorem min (hx : x.IsAmount k) (hy : y.IsAmount k) : (Binary64.min x y).IsAmount k := by
  rw [Binary64.min]
  split
  · exact hy
  · split
    · exact hy
    · exact hx

theorem min_infinite (hx : x.IsAmount k) : Binary64.min (infinite false) x = x := by
  cases hx with
  | intro hp hple => exact if_pos (lt_iff.mpr ⟨_, _, rfl, rfl, Int.ofNat_lt.mpr hp.1⟩)

/-- A term does not take a sum beyond `2 ^ 53` times what a term can be. -/
theorem add_term (hx : x.IsAmount (k + 53)) (hy : y.IsAmount k) (hk : k + 53 < 1024) :
    (x + y).IsAmount (k + 53) := by
  cases hx with
  | intro hp hple =>
    cases hy with
    | intro hq hqle =>
      rw [add_eq]
      refine isAmount_nearest hk ?_
      rw [← Nat.add_assoc] at hple ⊢
      exact nearestQuanta_le_two_pow (Nat.add_le_add hple hqle)

end IsAmount

/-! ### Many amounts -/

section List

variable {k : Nat} {xs : List Binary64}

theorem isAmount_foldl {f : Binary64 → Binary64 → Binary64} {j : Nat}
    (hf : ∀ {x y}, IsAmount j x → IsAmount k y → IsAmount j (f x y))
    (h : ∀ x ∈ xs, x.IsAmount k) {start : Binary64} (hstart : start.IsAmount j) :
    (xs.foldl f start).IsAmount j := by
  induction xs generalizing start with
  | nil => exact hstart
  | cons x xs ih =>
    obtain ⟨hx, hxs⟩ := List.forall_mem_cons.mp h
    exact ih hxs (hf hstart hx)

/-- A sum of amounts is an amount, however many they are. -/
theorem isAmount_sum (hne : xs ≠ []) (h : ∀ x ∈ xs, x.IsAmount k) (hk : k + 53 < 1024) :
    (sum xs).IsAmount (k + 53) := by
  cases xs with
  | nil => exact absurd rfl hne
  | cons x xs =>
    obtain ⟨hx, hxs⟩ := List.forall_mem_cons.mp h
    have hstart : zero true + x = x := by
      cases hx with
      | intro hp hple => exact zero_add_finite hp
    rw [sum, List.foldl_cons, hstart]
    exact isAmount_foldl (fun hx hy => hx.add_term hy hk) hxs (hx.mono (Nat.le_add_right k 53))

/-- The least of some amounts is an amount. -/
theorem isAmount_foldl_min (hne : xs ≠ []) (h : ∀ x ∈ xs, x.IsAmount k) :
    (xs.foldl Binary64.min (infinite false)).IsAmount k := by
  cases xs with
  | nil => exact absurd rfl hne
  | cons x xs =>
    obtain ⟨hx, hxs⟩ := List.forall_mem_cons.mp h
    rw [List.foldl_cons, hx.min_infinite]
    exact isAmount_foldl (fun hx hy => hx.min hy) hxs hx

end List

end RoutineTiming.Binary64
