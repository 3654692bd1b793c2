import RoutineTiming.Binary64.Basic

/-!
# Numbers that rounding does not cross

A quotient on one side of a representable number is rounded to a number on the same side of it, so
bounds by representable numbers survive every rounding. Just above a power of two the numbers lie
twice as far apart as below it, and what exceeds the power by at most half of this is rounded down
to it.

## Main results

* `Binary64.nearestQuanta_le`, `Binary64.le_nearestQuanta` : bounds survive the rounding.
* `Binary64.nearestQuanta_mul_left` : a representable number is its own rounding.
* `Binary64.nearestQuanta_le_two_pow` : little more than a power of two is rounded down to it.
-/

namespace RoutineTiming

namespace Binary64

theorem spacing_pos (quanta : Nat) : 0 < spacing quanta := Nat.two_pow_pos _

theorem log2_le_log2 {p q : Nat} (h : p ≤ q) : p.log2 ≤ q.log2 := by
  rcases Nat.eq_zero_or_pos p with rfl | hp
  · exact Nat.zero_le _
  · have hp : p ≠ 0 := Nat.ne_of_gt hp
    exact (Nat.le_log2 (by omega)).mpr (Nat.le_trans (Nat.log2_self_le hp) h)

/-- The spacing does not shrink as numbers grow. -/
theorem spacing_dvd_spacing {p q : Nat} (h : p ≤ q) : spacing p ∣ spacing q := by
  exact Nat.pow_dvd_pow 2 (Nat.sub_le_sub_right (log2_le_log2 h) 52)

theorem spacing_dvd_two_pow (e : Nat) : spacing (2 ^ e) ∣ 2 ^ e := by
  rw [spacing, Nat.log2_two_pow]
  exact Nat.pow_dvd_pow 2 (Nat.sub_le e 52)

/-- A quotient that is at most a representable number is rounded to at most this number. -/
theorem nearestQuanta_le {num den bound : Nat} (hden : 0 < den) (hbound : spacing bound ∣ bound)
    (h : num ≤ den * bound) : nearestQuanta num den ≤ bound := by
  have hle : num / den ≤ bound := by
    rw [← Nat.mul_div_cancel_left bound hden]
    exact Nat.div_le_div_right h
  obtain ⟨m, hm⟩ := Nat.dvd_trans (spacing_dvd_spacing hle) hbound
  have hround : roundHalfEven num (den * spacing (num / den)) ≤ m :=
    roundHalfEven_le (Nat.mul_pos hden (spacing_pos _)) (by rw [Nat.mul_assoc, ← hm]; exact h)
  rw [nearestQuanta, hm, Nat.mul_comm]
  exact Nat.mul_le_mul_left _ hround

/-- A representable number that is at most a quotient is at most the last multiple of the spacing
that is. -/
theorem le_last_multiple {num den bound : Nat} (hden : 0 < den) (hbound : spacing bound ∣ bound)
    (h : den * bound ≤ num) :
    bound ≤ num / (den * spacing (num / den)) * spacing (num / den) := by
  have hmultiple {n : Nat} (hn : spacing (num / den) ∣ n) (hle : den * n ≤ num) :
      n ≤ num / (den * spacing (num / den)) * spacing (num / den) := by
    obtain ⟨m, rfl⟩ := hn
    have hm : m ≤ num / (den * spacing (num / den)) := by
      rw [Nat.le_div_iff_mul_le (Nat.mul_pos hden (spacing_pos _)), Nat.mul_comm, Nat.mul_assoc]
      exact hle
    rw [Nat.mul_comm]
    exact Nat.mul_le_mul_right _ hm
  have hle : bound ≤ num / den := (Nat.le_div_iff_mul_le hden).mpr (Nat.mul_comm den bound ▸ h)
  rcases Nat.eq_or_lt_of_le (log2_le_log2 hle) with hlog | hlog
  · refine hmultiple ?_ h
    rwa [spacing, ← hlog]
  · -- A power of two that is a multiple of the spacing lies between the number and the quotient.
    have hne : num / den ≠ 0 := fun h0 => by simp [h0] at hlog
    have hbelow : bound < 2 ^ (num / den).log2 :=
      Nat.lt_of_lt_of_le Nat.lt_log2_self (Nat.pow_le_pow_right (by decide) hlog)
    have hpower : den * 2 ^ (num / den).log2 ≤ num := by
      rw [Nat.mul_comm]
      exact (Nat.le_div_iff_mul_le hden).mp (Nat.log2_self_le hne)
    exact Nat.le_trans (Nat.le_of_lt hbelow)
      (hmultiple (Nat.pow_dvd_pow 2 (Nat.sub_le ..)) hpower)

/-- A quotient that is at least a representable number is rounded to at least this number. -/
theorem le_nearestQuanta {num den bound : Nat} (hden : 0 < den) (hbound : spacing bound ∣ bound)
    (h : den * bound ≤ num) : bound ≤ nearestQuanta num den := by
  have hround : num / (den * spacing (num / den)) ≤
      roundHalfEven num (den * spacing (num / den)) := by
    rcases roundHalfEven_eq_or num (den * spacing (num / den)) with heq | heq <;> omega
  exact Nat.le_trans (le_last_multiple hden hbound h) (Nat.mul_le_mul_right _ hround)

/-- A representable number is its own rounding. -/
theorem nearestQuanta_mul_left {den quanta : Nat} (hden : 0 < den)
    (h : spacing quanta ∣ quanta) : nearestQuanta (den * quanta) den = quanta :=
  Nat.le_antisymm (nearestQuanta_le hden h (Nat.le_refl _))
    (le_nearestQuanta hden h (Nat.le_refl _))

/-- A number that exceeds a power of two by at most half the spacing above it is rounded to at most
this power. -/
theorem nearestQuanta_le_two_pow {e n : Nat} (h : n ≤ 2 ^ (e + 53) + 2 ^ e) :
    nearestQuanta n 1 ≤ 2 ^ (e + 53) := by
  rcases Nat.le_total n (2 ^ (e + 53)) with hle | hge
  · exact nearestQuanta_le Nat.one_pos (spacing_dvd_two_pow _) (by rwa [Nat.one_mul])
  · have hlog : n.log2 = e + 53 := by
      have hlt : 2 ^ e < 2 ^ (e + 53) := Nat.pow_lt_pow_right (by decide) (by omega)
      have hnext : 2 ^ (e + 53 + 1) = 2 * 2 ^ (e + 53) := Nat.pow_succ'
      have hne : n ≠ 0 := fun h0 => by simp [h0] at hge
      rw [Nat.log2_eq_iff hne]
      omega
    have hspacing : spacing n = 2 * 2 ^ e := by
      rw [spacing, hlog, show e + 53 - 52 = e + 1 by omega, Nat.pow_succ, Nat.mul_comm]
    have hpower : 2 ^ (e + 53) = 2 ^ 52 * (2 * 2 ^ e) := by
      rw [Nat.pow_add, show 2 ^ 53 = 2 ^ 52 * 2 from rfl, Nat.mul_comm, Nat.mul_assoc]
    rw [nearestQuanta, Nat.div_one, hspacing, Nat.one_mul, hpower]
    have hpos : 0 < 2 * 2 ^ e := Nat.mul_pos Nat.two_pos (Nat.two_pow_pos e)
    refine Nat.mul_le_mul_right _ (roundHalfEven_le_of_even hpos (by decide) ?_)
    rw [Nat.mul_comm (2 * 2 ^ e), ← hpower]
    omega

end Binary64

end RoutineTiming
