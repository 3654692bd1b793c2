import RoutineTiming.Proofs.Binary64.Operations
import RoutineTiming.Proofs.Decimal.Digits

/-!
# Shortest decimals read back

The number nearest to a decimal depends on the value of the decimal alone, and not on how its digits
are divided between significand and exponent. The decimal that is found for a binary64 number, or
else its exact value, reads back as that number.

## Main definitions

* `Decimal.leading` : the power of ten above the leading digit.

## Main results

* `Binary64.nearest_eq_of_cross` : equal quotients have the same rounding.
* `Binary64.ofDecimal_scale`, `Binary64.ofDecimal_strip` : decimals of one value.
* `Binary64.ofDecimal_shortest` : the shortest decimal reads back.
-/

namespace RoutineTiming

theorem roundHalfEven_mul_mul {k : Nat} (hk : 0 < k) (num den : Nat) :
    roundHalfEven (k * num) (k * den) = roundHalfEven num den := by
  have hlt : 2 * (k * (num % den)) < k * den ↔ 2 * (num % den) < den := by
    rw [Nat.mul_left_comm, Nat.mul_lt_mul_left hk]
  have heq : 2 * (k * (num % den)) = k * den ↔ 2 * (num % den) = den := by
    rw [Nat.mul_left_comm, Nat.mul_right_inj (Nat.ne_of_gt hk)]
  simp only [roundHalfEven, Nat.mul_div_mul_left _ _ hk, Nat.mul_mod_mul_left, hlt, heq]

/-- The power of ten just above the leading digit of a decimal. -/
def Decimal.leading (d : Decimal) : Int := d.exponent + (digitsOf d.significand).length

namespace Binary64

/-! ### Quotients -/

theorem nearest_mul_mul (negative : Bool) {k : Nat} (hk : 0 < k) (num den : Nat) :
    nearest negative (k * num) (k * den) = nearest negative num den := by
  have hquanta : nearestQuanta (k * num) (k * den) = nearestQuanta num den := by
    rw [nearestQuanta, nearestQuanta, Nat.mul_div_mul_left _ _ hk, Nat.mul_assoc,
      roundHalfEven_mul_mul hk]
  simp only [nearest, hquanta]

/-- Equal quotients are rounded to the same number. -/
theorem nearest_eq_of_cross (negative : Bool) {num den num' den' : Nat} (hden : 0 < den)
    (hden' : 0 < den') (h : num * den' = num' * den) :
    nearest negative num den = nearest negative num' den' := by
  rw [← nearest_mul_mul negative hden' num den, ← nearest_mul_mul negative hden num' den',
    Nat.mul_comm den' num, Nat.mul_comm den num', h, Nat.mul_comm den' den]

theorem nearest_true (num den : Nat) : nearest true num den = -nearest false num den := by
  rw [nearest, nearest]
  split <;> rfl

/-! ### Decimals -/

/-- The number nearest to a decimal as a rounded quotient, whichever sign the exponent has. -/
theorem ofDecimal_eq (negative : Bool) (d : Decimal) :
    ofDecimal negative d =
      if d.significand = 0 ∨ d.leading < -400 then zero negative
      else if 400 < d.leading then .infinite negative
      else nearest negative (d.significand * 10 ^ d.exponent.toNat * unit)
        (10 ^ (-d.exponent).toNat) := by
  rw [ofDecimal]
  refine if_congr Iff.rfl rfl (if_congr Iff.rfl rfl ?_)
  split
  · next h => rw [show (-d.exponent).toNat = 0 by omega, Nat.pow_zero]
  · next h => rw [show d.exponent.toNat = 0 by omega, Nat.pow_zero, Nat.mul_one]

theorem ofDecimal_of_significand_eq_zero (negative : Bool) {d : Decimal}
    (h : d.significand = 0) : ofDecimal negative d = zero negative := by
  rw [ofDecimal_eq, if_pos (.inl h)]

/-- Digits may be moved between the significand and the exponent. -/
theorem ofDecimal_scale (negative : Bool) (significand zeros : Nat) (exponent : Int) :
    ofDecimal negative ⟨significand * 10 ^ zeros, exponent - zeros⟩ =
      ofDecimal negative ⟨significand, exponent⟩ := by
  by_cases hzero : significand = 0
  · subst hzero
    rw [Nat.zero_mul, ofDecimal_of_significand_eq_zero negative rfl,
      ofDecimal_of_significand_eq_zero negative rfl]
  · have hleading : (Decimal.mk (significand * 10 ^ zeros) (exponent - zeros)).leading =
        (Decimal.mk significand exponent).leading := by
      simp only [Decimal.leading, digitsOf_mul_pow hzero, List.length_append,
        List.length_replicate]
      omega
    have hne : significand * 10 ^ zeros ≠ 0 :=
      Nat.mul_ne_zero hzero (Nat.ne_of_gt (Nat.pow_pos (by decide)))
    rw [ofDecimal_eq, ofDecimal_eq, hleading]
    refine if_congr (or_congr (iff_of_false hne hzero) Iff.rfl) rfl (if_congr Iff.rfl rfl ?_)
    have hpowers : 10 ^ zeros * 10 ^ (exponent - zeros).toNat * 10 ^ (-exponent).toNat =
        10 ^ exponent.toNat * 10 ^ (-(exponent - zeros)).toNat := by
      rw [← Nat.pow_add, ← Nat.pow_add, ← Nat.pow_add]
      congr 1
      omega
    refine nearest_eq_of_cross negative (Nat.pow_pos (by decide)) (Nat.pow_pos (by decide)) ?_
    generalize unit = u
    calc significand * 10 ^ zeros * 10 ^ (exponent - zeros).toNat * u * 10 ^ (-exponent).toNat
        = significand * u *
          (10 ^ zeros * 10 ^ (exponent - zeros).toNat * 10 ^ (-exponent).toNat) := by ac_rfl
      _ = significand * u * (10 ^ exponent.toNat * 10 ^ (-(exponent - zeros)).toNat) := by
        rw [hpowers]
      _ = significand * 10 ^ exponent.toNat * u * 10 ^ (-(exponent - zeros)).toNat := by ac_rfl

theorem ofDecimal_strip (negative : Bool) (d : Decimal) :
    ofDecimal negative d.strip = ofDecimal negative d := by
  by_cases hzero : d.significand = 0
  · rw [Decimal.strip, if_pos hzero, ofDecimal_of_significand_eq_zero negative hzero,
      ofDecimal_of_significand_eq_zero negative rfl]
  · obtain ⟨zeros, hsignificand, hexponent⟩ := Decimal.exists_strip hzero
    have hscale := ofDecimal_scale negative d.strip.significand zeros d.strip.exponent
    rw [← hsignificand, ← hexponent] at hscale
    exact hscale.symm

theorem ofDecimal_true (d : Decimal) : ofDecimal true d = -ofDecimal false d := by
  rw [ofDecimal_eq, ofDecimal_eq]
  split
  · rfl
  · split
    · rfl
    · exact nearest_true _ _

/-- A decimal without a sign is not rounded to a number with one. -/
theorem negative_of_ofDecimal_false {d : Decimal} {negative : Bool} {quanta : Nat}
    {h : Representable quanta} (heq : ofDecimal false d = finite negative quanta h) :
    negative = false := by
  rw [ofDecimal_eq] at heq
  split at heq
  · cases heq
    rfl
  · split at heq
    · cases heq
    · rw [nearest] at heq
      split at heq <;> cases heq
      rfl

/-! ### Shortest decimals -/

section Shortest

variable {quanta : Nat} (h : Representable quanta)
include h

/-- The exact value of a number reads back as the number. -/
theorem ofDecimal_exactDecimal : ofDecimal false (exactDecimal quanta) = finite false quanta h := by
  by_cases hzero : quanta = 0
  · subst hzero
    exact ofDecimal_of_significand_eq_zero false (Nat.zero_mul _)
  · have hpos : 0 < quanta := Nat.pos_of_ne_zero hzero
    have hmost : (digitsOf (quanta * 5 ^ quantumExponent)).length ≤ 1474 := by
      rw [length_digitsOf_le_iff (by decide)]
      have hbound : overflow * 5 ^ quantumExponent ≤ 10 ^ 1474 := by decide +kernel
      exact Nat.lt_of_lt_of_le
        (Nat.mul_lt_mul_of_pos_right h.1 (Nat.pow_pos (by decide))) hbound
    have hleast : ¬ (digitsOf (quanta * 5 ^ quantumExponent)).length ≤ 673 := by
      rw [length_digitsOf_le_iff (by decide), Nat.not_lt]
      have hbound : 10 ^ 673 ≤ 5 ^ quantumExponent := by decide +kernel
      exact Nat.le_trans hbound (Nat.le_mul_of_pos_left _ hpos)
    have hleading : (exactDecimal quanta).leading =
        -1074 + (digitsOf (quanta * 5 ^ quantumExponent)).length := rfl
    have hne : (exactDecimal quanta).significand ≠ 0 :=
      Nat.mul_ne_zero hzero (Nat.ne_of_gt (Nat.pow_pos (by decide)))
    rw [ofDecimal_eq, if_neg (not_or.mpr ⟨hne, by omega⟩), if_neg (by omega),
      ← nearest_of_representable h]
    refine nearest_eq_of_cross false (Nat.pow_pos (by decide)) Nat.one_pos ?_
    have hten : 5 ^ quantumExponent * unit = 10 ^ quantumExponent := by
      rw [unit, ← Nat.mul_pow]
    change quanta * 5 ^ quantumExponent * 10 ^ 0 * unit * 1 = quanta * 10 ^ quantumExponent
    rw [Nat.pow_zero, Nat.mul_one, Nat.mul_one, Nat.mul_assoc, hten]

theorem ofDecimal_searchShortest (tries count : Nat) :
    ofDecimal false (searchShortest quanta (exactDecimal quanta) tries count) =
      finite false quanta h := by
  induction tries generalizing count with
  | zero => exact ofDecimal_exactDecimal h
  | succ tries ih =>
    rw [searchShortest]
    split
    · next d hfound =>
      have hreads := List.find?_some hfound
      split at hreads
      · next negative q hq heq =>
        cases negative_of_ofDecimal_false heq
        cases of_decide_eq_true hreads
        exact heq
      · cases hreads
    · exact ih (count + 1)

/-- The shortest decimal reads back as the number that it stands for. -/
theorem ofDecimal_shortest (negative : Bool) :
    ofDecimal negative (shortest quanta) = finite negative quanta h := by
  have hfalse : ofDecimal false (shortest quanta) = finite false quanta h := by
    rw [shortest, ofDecimal_strip]
    exact ofDecimal_searchShortest h 17 1
  cases negative with
  | false => exact hfalse
  | true =>
    rw [ofDecimal_true, hfalse]
    rfl

end Shortest

end Binary64

end RoutineTiming
