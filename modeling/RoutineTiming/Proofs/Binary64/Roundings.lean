import RoutineTiming.Decimal.Fixed
import RoutineTiming.Proofs.Binary64.Quotient
import RoutineTiming.Text.Numeral

/-!
# Several roundings in a row

A rounding changes a number by at most its `2 ^ 53`th part, unless the number is so small that the
format has no 53 bits for it. So what comes out of some divisions and multiplications by natural
numbers is known but for one such factor for each of them. Three roundings together do not lead half
a unit away from a natural number up to `2 ^ 50`.

## Main definitions

* `Binary64.IsRounded` : a quotient of natural numbers after some roundings.

## Main results

* `Binary64.nearestQuanta_relative` : what one rounding changes.
* `Binary64.IsRounded.div`, `Binary64.IsRounded.mul` : one operation is one more rounding.
* `Binary64.IsRounded.toFixed_zero` : a natural number after three roundings.
-/

namespace RoutineTiming

/-- A quotient is rounded to the natural number that is less than half a unit away. -/
theorem roundHalfEven_eq_of_close {num den n : Nat} (hlow : 2 * (den * n) < 2 * num + den)
    (hhigh : 2 * num < 2 * (den * n) + den) : roundHalfEven num den = n := by
  have hden : 0 < den := by omega
  obtain ⟨hbelow, habove⟩ := two_mul_roundHalfEven hden num
  generalize roundHalfEven num den = k at hbelow habove ⊢
  have hle : den * k < den * (n + 1) := by
    rw [Nat.mul_add_one]
    omega
  have hge : den * n < den * (k + 1) := by
    rw [Nat.mul_add_one]
    omega
  exact Nat.le_antisymm (Nat.le_of_lt_succ (Nat.lt_of_mul_lt_mul_left hle))
    (Nat.le_of_lt_succ (Nat.lt_of_mul_lt_mul_left hge))

namespace Binary64

/-! ### One rounding -/

/-- A rounding changes a quotient of at least `2 ^ 52` quanta by at most its `2 ^ 53`th part. -/
theorem nearestQuanta_relative {num den : Nat} (hden : 0 < den)
    (h : num = 0 ∨ 2 ^ 52 * den ≤ num) :
    (2 ^ 53 - 1) * num ≤ 2 ^ 53 * (den * nearestQuanta num den) ∧
      2 ^ 53 * (den * nearestQuanta num den) ≤ (2 ^ 53 + 1) * num := by
  rcases h with rfl | hlarge
  · have hzero : nearestQuanta 0 den ≤ 0 := nearestQuanta_le hden (Nat.dvd_zero _) (Nat.zero_le _)
    rw [Nat.le_zero.mp hzero]
    exact ⟨Nat.le_refl _, Nat.le_refl _⟩
  · -- half the spacing is at most the `2 ^ 53`th part of the quotient
    have hspacing : den * spacing (num / den) * 2 ^ 52 ≤ num := by
      rw [Nat.mul_comm den, Nat.mul_right_comm]
      exact (Nat.le_div_iff_mul_le hden).mp
        (spacing_mul_two_pow_le ((Nat.le_div_iff_mul_le hden).mpr hlarge))
    obtain ⟨hlow, hhigh⟩ := two_mul_roundHalfEven
      (Nat.mul_pos hden (spacing_pos (num / den))) num
    rw [nearestQuanta]
    generalize roundHalfEven num (den * spacing (num / den)) = k at hlow hhigh ⊢
    rw [Nat.mul_comm k, ← Nat.mul_assoc den]
    generalize den * spacing (num / den) = step at hspacing hlow hhigh ⊢
    generalize step * k = rounded at hlow hhigh ⊢
    omega

/-! ### Several roundings -/

/-- A lower bound with one more factor on both sides. -/
theorem pow_succ_mul_le {c d k x p a b q den : Nat} (h : c ^ k * x ≤ d ^ k * (den * p))
    (hstep : c * (p * a) ≤ d * (b * q)) :
    c ^ (k + 1) * (x * a) ≤ d ^ (k + 1) * (den * b * q) :=
  calc c ^ (k + 1) * (x * a)
      = c * a * (c ^ k * x) := by
        rw [Nat.pow_succ]
        ac_rfl
    _ ≤ c * a * (d ^ k * (den * p)) := Nat.mul_le_mul_left _ h
    _ = d ^ k * den * (c * (p * a)) := by ac_rfl
    _ ≤ d ^ k * den * (d * (b * q)) := Nat.mul_le_mul_left _ hstep
    _ = d ^ (k + 1) * (den * b * q) := by
        rw [Nat.pow_succ]
        ac_rfl

/-- An upper bound with one more factor on both sides. -/
theorem le_pow_succ_mul {c d k x p a b q den : Nat} (h : d ^ k * (den * p) ≤ c ^ k * x)
    (hstep : d * (b * q) ≤ c * (p * a)) :
    d ^ (k + 1) * (den * b * q) ≤ c ^ (k + 1) * (x * a) :=
  calc d ^ (k + 1) * (den * b * q)
      = d ^ k * den * (d * (b * q)) := by
        rw [Nat.pow_succ]
        ac_rfl
    _ ≤ d ^ k * den * (c * (p * a)) := Nat.mul_le_mul_left _ hstep
    _ = c * a * (d ^ k * (den * p)) := by ac_rfl
    _ ≤ c * a * (c ^ k * x) := Nat.mul_le_mul_left _ h
    _ = c ^ (k + 1) * (x * a) := by
        rw [Nat.pow_succ]
        ac_rfl

/-- The number is a quotient of natural numbers but for some roundings, each of which changes it by
at most its `2 ^ 53`th part. -/
inductive IsRounded (roundings num den : Nat) : Binary64 → Prop where
  | intro {p : Nat} (hp : Representable p)
      (hlow : (2 ^ 53 - 1) ^ roundings * (num * unit) ≤ (2 ^ 53) ^ roundings * (den * p))
      (hhigh : (2 ^ 53) ^ roundings * (den * p) ≤ (2 ^ 53 + 1) ^ roundings * (num * unit)) :
      IsRounded roundings num den (finite false p hp)

theorem isRounded_ofNat {n : Nat} (h : n ≤ 2 ^ 53) : IsRounded 0 n 1 (ofNat n) := by
  obtain ⟨hn, heq⟩ := ofNat_eq_finite h
  rw [heq]
  refine .intro hn ?_ ?_ <;> simp only [Nat.pow_zero, Nat.one_mul, Nat.le_refl]

section Rounded

variable {k num den : Nat}

theorem IsRounded.exists_eq_finite {x : Binary64} (hx : IsRounded k num den x) :
    ∃ p hp, x = finite false p hp := by
  cases hx with
  | intro hp _ _ => exact ⟨_, hp, rfl⟩

/-- Some roundings leave a number within a factor of two for each of them. -/
theorem IsRounded.quanta_bounds {p : Nat} {hp : Representable p}
    (hx : IsRounded k num den (finite false p hp)) :
    num * unit ≤ 2 ^ k * (den * p) ∧ den * p ≤ 2 ^ k * (num * unit) := by
  cases hx with
  | intro _ hlow hhigh =>
    have hpos : 0 < (2 ^ 53) ^ k := Nat.pow_pos (Nat.two_pow_pos 53)
    constructor
    · refine Nat.le_of_mul_le_mul_left ?_ hpos
      calc (2 ^ 53) ^ k * (num * unit)
          ≤ (2 * (2 ^ 53 - 1)) ^ k * (num * unit) :=
            Nat.mul_le_mul_right _ (Nat.pow_le_pow_left (by decide) k)
        _ = 2 ^ k * ((2 ^ 53 - 1) ^ k * (num * unit)) := by rw [Nat.mul_pow, Nat.mul_assoc]
        _ ≤ 2 ^ k * ((2 ^ 53) ^ k * (den * p)) := Nat.mul_le_mul_left _ hlow
        _ = (2 ^ 53) ^ k * (2 ^ k * (den * p)) := Nat.mul_left_comm ..
    · refine Nat.le_of_mul_le_mul_left ?_ hpos
      calc (2 ^ 53) ^ k * (den * p)
          ≤ (2 ^ 53 + 1) ^ k * (num * unit) := hhigh
        _ ≤ (2 ^ 53 * 2) ^ k * (num * unit) :=
            Nat.mul_le_mul_right _ (Nat.pow_le_pow_left (by decide) k)
        _ = (2 ^ 53) ^ k * (2 ^ k * (num * unit)) := by rw [Nat.mul_pow, Nat.mul_assoc]

/-- The number scaled by a factor and rounded once more. -/
theorem IsRounded.scale {a b p : Nat} {hp : Representable p}
    (hx : IsRounded k num den (finite false p hp)) (hb : 0 < b)
    (hlarge : p * a = 0 ∨ 2 ^ 52 * b ≤ p * a) (hfinite : nearestQuanta (p * a) b < overflow) :
    IsRounded (k + 1) (num * a) (den * b) (nearest false (p * a) b) := by
  cases hx with
  | intro _ hlow hhigh =>
    obtain ⟨hlow', hhigh'⟩ := nearestQuanta_relative hb hlarge
    have hq : Representable (nearestQuanta (p * a) b) := ⟨hfinite, spacing_dvd_nearestQuanta _ _⟩
    rw [nearest_eq_finite rfl hq]
    refine .intro hq ?_ ?_
    · rw [Nat.mul_right_comm num]
      exact pow_succ_mul_le hlow hlow'
    · rw [Nat.mul_right_comm num]
      exact le_pow_succ_mul hhigh hhigh'

/-- A number that is not zero does not get small by the way. -/
theorem IsRounded.eq_zero_or_le {p bound : Nat} {hp : Representable p}
    (hx : IsRounded k num den (finite false p hp)) (hden : 0 < den)
    (hsmall : 2 ^ k * (den * bound) ≤ unit) : p = 0 ∨ bound ≤ p := by
  obtain ⟨hlow, hhigh⟩ := hx.quanta_bounds
  rcases Nat.eq_zero_or_pos num with rfl | hnum
  · rw [Nat.zero_mul, Nat.mul_zero] at hhigh
    exact .inl ((Nat.mul_eq_zero.mp (Nat.le_zero.mp hhigh)).resolve_left (Nat.ne_of_gt hden))
  · refine .inr (Nat.le_of_mul_le_mul_left (Nat.le_of_mul_le_mul_left ?_ (Nat.two_pow_pos k)) hden)
    exact Nat.le_trans hsmall (Nat.le_trans (Nat.le_mul_of_pos_left unit hnum) hlow)

/-- A division by a natural number is one more rounding. -/
theorem IsRounded.div {n : Nat} {x : Binary64} (hx : IsRounded k num den x) (hden : 0 < den)
    (hpos : 0 < n) (hn : n ≤ 2 ^ 53) (hsmall : 2 ^ k * (den * (2 ^ 52 * n)) ≤ unit) :
    IsRounded (k + 1) num (den * n) (x / ofNat n) := by
  obtain ⟨hunit, heq⟩ := ofNat_eq_finite hn
  have hnonzero : 0 < n * unit := Nat.mul_pos hpos unit_pos
  obtain ⟨p, hp, rfl⟩ := hx.exists_eq_finite
  have hdivision : finite false p hp / ofNat n = nearest false (p * 1) n := by
    rw [heq, div_eq hp hunit (Nat.ne_of_gt hnonzero), Nat.mul_one]
    exact nearest_eq_of_cross false hnonzero hpos (by rw [Nat.mul_assoc, Nat.mul_comm unit])
  have hquotient : nearestQuanta (p * 1) n ≤ p :=
    nearestQuanta_le hpos hp.2 ((Nat.mul_one p).symm ▸ Nat.le_mul_of_pos_left p hpos)
  rw [hdivision, ← Nat.mul_one num]
  refine hx.scale hpos ?_ (Nat.lt_of_le_of_lt hquotient hp.1)
  rw [Nat.mul_one]
  exact hx.eq_zero_or_le hden hsmall

/-- A multiplication by a natural number is one more rounding. -/
theorem IsRounded.mul {n : Nat} {x : Binary64} (hx : IsRounded k num den x) (hden : 0 < den)
    (hn : n ≤ 2 ^ 53) (hsmall : 2 ^ k * (den * 2 ^ 52) ≤ unit)
    {e : Nat} (he : e < 1024) (hlarge : 2 ^ k * (num * n) ≤ 2 ^ e) :
    IsRounded (k + 1) (num * n) den (x * ofNat n) := by
  obtain ⟨hunit, heq⟩ := ofNat_eq_finite hn
  obtain ⟨p, hp, rfl⟩ := hx.exists_eq_finite
  have hproduct : finite false p hp * ofNat n = nearest false (p * n) 1 := by
    rw [heq, mul_eq hp hunit]
    exact nearest_eq_of_cross false unit_pos Nat.one_pos (by rw [Nat.mul_one, Nat.mul_assoc])
  have hbound : p * n ≤ 1 * 2 ^ (quantumExponent + e) :=
    calc p * n
        ≤ den * p * n := Nat.mul_le_mul_right n (Nat.le_mul_of_pos_left p hden)
      _ ≤ 2 ^ k * (num * unit) * n := Nat.mul_le_mul_right n hx.quanta_bounds.2
      _ = 2 ^ k * (num * n) * unit := by
          rw [Nat.mul_assoc, Nat.mul_right_comm num, ← Nat.mul_assoc]
      _ ≤ 2 ^ e * unit := Nat.mul_le_mul_right unit hlarge
      _ = 1 * 2 ^ (quantumExponent + e) := by rw [Nat.one_mul, Nat.pow_add, Nat.mul_comm, unit]
  have hfinite : nearestQuanta (p * n) 1 < overflow :=
    Nat.lt_of_le_of_lt (nearestQuanta_le Nat.one_pos (spacing_dvd_two_pow _) hbound)
      (Nat.pow_lt_pow_right (by decide) (Nat.add_lt_add_left he _))
  rw [hproduct, ← Nat.mul_one den]
  refine hx.scale Nat.one_pos ?_ hfinite
  rcases hx.eq_zero_or_le hden hsmall with hzero | hle
  · exact .inl (by rw [hzero, Nat.zero_mul])
  · rcases Nat.eq_zero_or_pos n with rfl | hpos
    · exact .inl (Nat.mul_zero p)
    · exact .inr (Nat.le_trans hle (Nat.le_mul_of_pos_right p hpos))

end Rounded

/-- Three roundings do not lead half a unit away from a natural number up to `2 ^ 50`. -/
theorem IsRounded.toFixed_zero {m den : Nat} {x : Binary64} (hx : IsRounded 3 (den * m) den x)
    (hden : 0 < den) (hm : m ≤ 2 ^ 50) : x.toFixed 0 = numeral m := by
  cases hx with
  | @intro p hp hlow hhigh =>
    rw [Nat.mul_assoc, Nat.mul_left_comm _ den, Nat.mul_left_comm _ den] at hlow hhigh
    have hlow := Nat.le_of_mul_le_mul_left hlow hden
    have hhigh := Nat.le_of_mul_le_mul_left hhigh hden
    -- three times the `2 ^ 53`th part of `2 ^ 50` units and a little is less than half a unit
    have hclose : 2 * (m * unit) < 2 * p + unit ∧ 2 * p < 2 * (m * unit) + unit := by
      have hunit := unit_pos
      have hscaled := Nat.mul_le_mul_right unit hm
      generalize m * unit = whole at hlow hhigh hscaled ⊢
      generalize unit = u at hunit hscaled ⊢
      omega
    have hround : roundHalfEven (p * 10 ^ 0) unit = m := by
      rw [Nat.mul_comm m] at hclose
      rw [Nat.pow_zero, Nat.mul_one]
      exact roundHalfEven_eq_of_close hclose.1 hclose.2
    rw [toFixed, hround, placePoint, if_pos rfl, Nat.pow_zero, Nat.div_one]
    rfl

end Binary64

end RoutineTiming
