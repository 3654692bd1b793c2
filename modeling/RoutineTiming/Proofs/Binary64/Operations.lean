import RoutineTiming.Binary64.Arithmetic
import RoutineTiming.Proofs.Binary64.Nearest

/-!
# Operations on finite numbers

What the order and the operations amount to on finite numbers without a sign: comparisons are those
of the numbers of quanta, and sums, differences, products and quotients are single roundings of
natural numbers.

## Main results

* `Binary64.le_finite_iff`, `Binary64.lt_finite_iff` : the order.
* `Binary64.add_eq`, `Binary64.sub_eq_of_le`, `Binary64.mul_eq`, `Binary64.div_eq` : the operations.
* `Binary64.nearest_of_representable` : a representable number is rounded to itself.
* `Binary64.eq_of_one_le` : the numbers that are at least one.
-/

namespace RoutineTiming.Binary64

/-- A representable number is rounded to itself. -/
theorem nearest_of_representable {quanta : Nat} (h : Representable quanta) :
    nearest false quanta 1 = finite false quanta h := by
  have hquanta : nearestQuanta quanta 1 = quanta := by
    simpa only [Nat.one_mul] using nearestQuanta_mul_left Nat.one_pos h.2
  have heq {q : Nat} (hq : nearestQuanta quanta 1 = q) (h : Representable q) :
      nearest false quanta 1 = finite false q h := by
    subst hq
    rw [nearest, dif_pos h.1]
  exact heq hquanta h

/-! ### Zero and one -/

theorem nearest_zero : nearest false 0 1 = zero false :=
  nearest_of_representable representable_zero

theorem zero_eq : (0 : Binary64) = zero false := by
  change ofNat 0 = _
  rw [ofNat, Nat.zero_mul, nearest_zero]

theorem isNaN_zero (negative : Bool) : (zero negative).isNaN = false := rfl

theorem position_zero : (0 : Binary64).position = some 0 := by
  rw [zero_eq]
  rfl

theorem representable_unit : Representable unit :=
  ⟨Nat.pow_lt_pow_right (by decide) (by decide), spacing_dvd_two_pow _⟩

theorem one_eq : (1 : Binary64) = finite false unit representable_unit := by
  change ofNat 1 = _
  rw [ofNat, Nat.one_mul, nearest_of_representable]

theorem position_one : (1 : Binary64).position = some (unit : Int) := by
  rw [one_eq]
  rfl

/-! ### Order -/

theorem le_trans {x y z : Binary64} (hxy : x ≤ y) (hyz : y ≤ z) : x ≤ z := by
  obtain ⟨a, b, ha, hb, hab⟩ := le_iff.mp hxy
  obtain ⟨b', c, hb', hc, hbc⟩ := le_iff.mp hyz
  have heq : b = b' := Option.some.inj (hb.symm.trans hb')
  exact le_iff.mpr ⟨a, c, ha, hc, by omega⟩

/-- The numbers that are at least one are the positive infinity and the finite numbers without a
sign that have enough quanta. -/
theorem eq_of_one_le {x : Binary64} (h : 1 ≤ x) :
    x = infinite false ∨ ∃ quanta hq, x = finite false quanta hq ∧ unit ≤ quanta := by
  obtain ⟨a, b, ha, hb, hle⟩ := le_iff.mp h
  have ha : (unit : Int) = a := Option.some.inj (position_one.symm.trans ha)
  have hunit := Int.ofNat_lt.mpr unit_pos
  cases x with
  | nan => cases hb
  | infinite negative =>
    have hb : signed negative overflow = b := Option.some.inj hb
    cases negative with
    | false => exact .inl rfl
    | true =>
      rw [signed, if_pos rfl] at hb
      omega
  | finite negative quanta hq =>
    have hb : signed negative quanta = b := Option.some.inj hb
    cases negative with
    | false =>
      rw [signed, if_neg Bool.false_ne_true] at hb
      exact .inr ⟨quanta, hq, rfl, by omega⟩
    | true =>
      rw [signed, if_pos rfl] at hb
      omega

/-- What is rounded below zero is not kept. -/
theorem max_nearest_zero (num den : Nat) : Binary64.max (nearest true num den) 0 = zero false := by
  have hnot : ¬ 0 < nearest true num den := by
    intro h
    obtain ⟨a, b, ha, hb, hlt⟩ := lt_iff.mp h
    have ha : (0 : Int) = a := Option.some.inj (position_zero.symm.trans ha)
    rw [nearest] at hb
    split at hb
    · have hb : signed true (nearestQuanta num den) = b := Option.some.inj hb
      rw [signed, if_pos rfl] at hb
      omega
    · have hb : signed true overflow = b := Option.some.inj hb
      rw [signed, if_pos rfl] at hb
      omega
  rw [Binary64.max, if_neg hnot, zero_eq, isNaN_zero, if_neg Bool.false_ne_true]

/-! ### Rounding -/

/-- A quotient that is at least a representable number is rounded to at least this number. -/
theorem finite_le_nearest {num den bound : Nat} (hden : 0 < den) (hbound : Representable bound)
    (h : den * bound ≤ num) : finite false bound hbound ≤ nearest false num den := by
  have hle := le_nearestQuanta hden hbound.2 h
  rw [nearest, le_iff]
  split
  · exact ⟨_, _, rfl, rfl, Int.ofNat_le.mpr hle⟩
  · exact ⟨_, _, rfl, rfl, Int.ofNat_le.mpr (Nat.le_of_lt hbound.1)⟩

theorem one_le_ofNat {n : Nat} (h : 1 ≤ n) : 1 ≤ ofNat n := by
  rw [one_eq]
  exact finite_le_nearest Nat.one_pos representable_unit (Nat.mul_le_mul_right _ h)

/-! ### Operations -/

section Finite

variable {p q : Nat} {hp : Representable p} {hq : Representable q}

theorem le_finite_iff : finite false p hp ≤ finite false q hq ↔ p ≤ q := by
  simp [le_iff, position, signed]

theorem lt_finite_iff : finite false p hp < finite false q hq ↔ p < q := by
  simp [lt_iff, position, signed]

variable (hp hq)

theorem finite_add_finite (a b : Bool) :
    finite a p hp + finite b q hq =
      if signed a p + signed b q = 0 then zero (a && b)
      else nearest (signed a p + signed b q < 0) (signed a p + signed b q).natAbs 1 := rfl

theorem add_eq : finite false p hp + finite false q hq = nearest false (p + q) 1 := by
  rw [finite_add_finite]
  simp only [signed, if_neg Bool.false_ne_true]
  by_cases h : p + q = 0
  · rw [if_pos (by omega), h, nearest_zero]
    rfl
  · rw [if_neg (by omega), decide_eq_false (by omega),
      show ((p : Int) + (q : Int)).natAbs = p + q by omega]

theorem sub_eq_of_le (h : q ≤ p) :
    finite false p hp - finite false q hq = nearest false (p - q) 1 := by
  change finite false p hp + finite true q hq = _
  rw [finite_add_finite]
  simp only [signed, if_neg Bool.false_ne_true, if_pos]
  by_cases heq : p = q
  · rw [if_pos (by omega), heq, Nat.sub_self, nearest_zero]
    rfl
  · rw [if_neg (by omega), decide_eq_false (by omega),
      show ((p : Int) + -(q : Int)).natAbs = p - q by omega]

theorem sub_eq_of_lt (h : p < q) :
    finite false p hp - finite false q hq = nearest true (q - p) 1 := by
  change finite false p hp + finite true q hq = _
  rw [finite_add_finite]
  simp only [signed, if_neg Bool.false_ne_true, if_pos]
  rw [if_neg (by omega), decide_eq_true (by omega),
    show ((p : Int) + -(q : Int)).natAbs = q - p by omega]

theorem mul_eq : finite false p hp * finite false q hq = nearest false (p * q) unit := by
  change Binary64.mul (finite false p hp) (finite false q hq) = _
  rw [Binary64.mul, bne_self_eq_false]

theorem div_eq (h : q ≠ 0) :
    finite false p hp / finite false q hq = nearest false (p * unit) q := by
  change Binary64.div (finite false p hp) (finite false q hq) = _
  rw [Binary64.div, if_neg h, bne_self_eq_false]

/-- A sum that begins with negative zero begins with its first term. -/
theorem zero_add_finite : zero true + finite false p hp = finite false p hp := by
  rw [zero, finite_add_finite]
  simp only [signed, if_neg Bool.false_ne_true, if_pos]
  by_cases h : p = 0
  · subst h
    rfl
  · rw [if_neg (by omega), decide_eq_false (by omega),
      show (-((0 : Nat) : Int) + (p : Int)).natAbs = p by omega, nearest_of_representable hp]

end Finite

end RoutineTiming.Binary64
