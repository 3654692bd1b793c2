/-!
# Rounding quotients to integers

A quotient of natural numbers is rounded to the nearest integer, and a quotient half way
between two integers goes to the even one.

## Main definitions

* `roundHalfEven` : the quotient `num / den` rounded to the nearest integer, halves to even.

## Main results

* `roundHalfEven_mul_left` : a whole quotient is its own rounding.
* `roundHalfEven_eq_or` : the result is the integer part of the quotient or its successor.
* `two_mul_roundHalfEven` : the result is within half a unit of the quotient.
* `roundHalfEven_le` : the result does not exceed a bound of the quotient.
* `roundHalfEven_le_of_even` : a half above an even integer goes down to it.
-/

-- A power of numbers is the one of core, also in the modules that import the powers of a monoid.
attribute [instance (high), default_instance (high + 1)] instPowNat

namespace RoutineTiming

/-- The quotient `num / den` rounded to the nearest integer, halves to the even neighbour. -/
def roundHalfEven (num den : Nat) : Nat :=
  let whole := num / den
  let rest := num % den
  if 2 * rest < den ∨ (2 * rest = den ∧ whole % 2 = 0) then whole else whole + 1

theorem roundHalfEven_eq_or (num den : Nat) :
    roundHalfEven num den = num / den ∨ roundHalfEven num den = num / den + 1 := by
  simp only [roundHalfEven]
  split
  · exact .inl rfl
  · exact .inr rfl

theorem roundHalfEven_mul_left {den : Nat} (h : 0 < den) (n : Nat) :
    roundHalfEven (den * n) den = n := by
  simp [roundHalfEven, h]

theorem roundHalfEven_le_of_lt_mul {num den bound : Nat} (h : num < den * bound) :
    roundHalfEven num den ≤ bound := by
  have : num / den < bound := Nat.div_lt_of_lt_mul h
  rcases roundHalfEven_eq_or num den with e | e <;> omega

theorem roundHalfEven_le {num den bound : Nat} (hden : 0 < den) (h : num ≤ den * bound) :
    roundHalfEven num den ≤ bound := by
  rcases Nat.eq_or_lt_of_le h with rfl | h
  · exact Nat.le_of_eq (roundHalfEven_mul_left hden bound)
  · exact roundHalfEven_le_of_lt_mul h

/-- Up to half a unit above an even number, the rounding does not exceed it. -/
theorem roundHalfEven_le_of_even {num den bound : Nat} (hden : 0 < den) (heven : bound % 2 = 0)
    (h : 2 * num ≤ 2 * (den * bound) + den) : roundHalfEven num den ≤ bound := by
  rcases Nat.lt_or_ge num (den * bound) with hlt | hge
  · exact roundHalfEven_le_of_lt_mul hlt
  · obtain ⟨rest, rfl⟩ := Nat.exists_eq_add_of_le hge
    have hwhole : (den * bound + rest) / den = bound := by
      rw [Nat.mul_add_div hden, Nat.div_eq_of_lt (by omega), Nat.add_zero]
    have hrest : (den * bound + rest) % den = rest := by
      rw [Nat.mul_add_mod, Nat.mod_eq_of_lt (by omega)]
    simp only [roundHalfEven, hwhole, hrest]
    exact Nat.le_of_eq (if_pos (by omega))

/-- The result is within half a unit of the quotient. -/
theorem two_mul_roundHalfEven {den : Nat} (h : 0 < den) (num : Nat) :
    2 * num ≤ 2 * (den * roundHalfEven num den) + den ∧
      2 * (den * roundHalfEven num den) ≤ 2 * num + den := by
  have hsplit := Nat.div_add_mod num den
  have hrest := Nat.mod_lt num h
  simp only [roundHalfEven]
  split
  · omega
  · rw [Nat.mul_add, Nat.mul_one]
    omega

end RoutineTiming
