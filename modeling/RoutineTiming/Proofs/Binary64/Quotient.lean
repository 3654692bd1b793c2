import RoutineTiming.Proofs.Binary64.Order

/-!
# Rounded quotients of natural numbers

No representable number is closer to a quotient than its rounding. A quotient of natural numbers
with a numerator below `2 ^ 53` is at least the reciprocal of its denominator away from the next
whole number, and this is more than half the spacing there: the rounding stays below the whole
number, and keeps two thirds of the distance.

## Main results

* `Binary64.nearestQuanta_add_le` : a number below a quotient is no closer than the rounding.
* `Binary64.nearestQuanta_div_le` : a rounded quotient stays away from the next whole number.
* `Binary64.floor_add_eq_ofNat` : when a small number that is added does not lead to it either.
-/

namespace RoutineTiming

/-- The rounding of a quotient is no farther from it than its integer part. -/
theorem roundHalfEven_add_div_le (num : Nat) {den : Nat} (h : 0 < den) :
    den * roundHalfEven num den + den * (num / den) ≤ 2 * num := by
  have hsplit := Nat.div_add_mod num den
  have hrest := Nat.mod_lt num h
  simp only [roundHalfEven]
  split
  · omega
  · rw [Nat.mul_add, Nat.mul_one]
    omega

namespace Binary64

/-- A representable number below a quotient is no closer to it than its rounding. -/
theorem nearestQuanta_add_le {num den p : Nat} (hden : 0 < den) (hp : spacing p ∣ p)
    (h : den * p ≤ num) : den * nearestQuanta num den + den * p ≤ 2 * num := by
  have hbelow := le_last_multiple hden hp h
  have hround := roundHalfEven_add_div_le num (Nat.mul_pos hden (spacing_pos (num / den)))
  rw [nearestQuanta]
  generalize spacing (num / den) = step at hbelow hround ⊢
  generalize roundHalfEven num (den * step) = rounded at hround ⊢
  generalize num / (den * step) = whole at hbelow hround
  calc den * (rounded * step) + den * p
      ≤ den * (rounded * step) + den * (whole * step) :=
        Nat.add_le_add_left (Nat.mul_le_mul_left den hbelow) _
    _ = den * step * rounded + den * step * whole := by
        rw [Nat.mul_comm rounded, Nat.mul_comm whole, Nat.mul_assoc, Nat.mul_assoc]
    _ ≤ 2 * num := hround

/-- What is added to a representable number moves it by at most twice as much. -/
theorem nearestQuanta_add_le_add {p : Nat} (hp : spacing p ∣ p) (q : Nat) :
    nearestQuanta (p + q) 1 ≤ p + 2 * q := by
  have h : 1 * nearestQuanta (p + q) 1 + 1 * p ≤ 2 * (p + q) :=
    nearestQuanta_add_le Nat.one_pos hp (by omega)
  omega

/-! ### Distance from the next whole number -/

/-- Numbers with more than 52 bits are `2 ^ 52` times as large as their spacing. -/
theorem spacing_mul_two_pow_le {q : Nat} (h : 2 ^ 52 ≤ q) : spacing q * 2 ^ 52 ≤ q := by
  have hne : q ≠ 0 := by omega
  have hlog : 52 ≤ q.log2 := (Nat.le_log2 hne).mpr h
  rw [spacing, ← Nat.pow_add, Nat.sub_add_cancel hlog]
  exact Nat.log2_self_le hne

theorem spacing_eq_one {q : Nat} (h : q < 2 ^ 52) : spacing q = 1 := by
  have hlog : q.log2 - 52 = 0 := by
    rcases Nat.eq_zero_or_pos q with rfl | hpos
    · rfl
    · have := (Nat.log2_lt (Nat.ne_of_gt hpos)).mpr h
      omega
  rw [spacing, hlog, Nat.pow_zero]

section Division

variable {m d n : Nat}

/-- The spacing at a quotient of natural numbers, against the reciprocal of the divisor. -/
theorem spacing_mul_lt (hm : m < 2 ^ 53) (hd : 0 < d) (hd' : d ≤ 2 ^ 53) :
    spacing (m * unit / d) * d < 2 * unit := by
  have hunit : 2 ^ 53 ≤ unit := Nat.pow_le_pow_right Nat.two_pos (by decide)
  generalize unit = u at hunit ⊢
  rcases Nat.lt_or_ge (m * u / d) (2 ^ 52) with hsmall | hlarge
  · rw [spacing_eq_one hsmall]
    omega
  · have hspacing : spacing (m * u / d) * 2 ^ 52 * d ≤ m * u :=
      (Nat.le_div_iff_mul_le hd).mp (spacing_mul_two_pow_le hlarge)
    have hnum : m * u < 2 ^ 53 * u := Nat.mul_lt_mul_of_pos_right hm (by omega)
    generalize spacing (m * u / d) = step at hspacing ⊢
    rw [Nat.mul_right_comm] at hspacing
    omega

theorem spacing_dvd_unit (hm : m < 2 ^ 53) (hd : 0 < d) (hd' : d ≤ 2 ^ 53) :
    spacing (m * unit / d) ∣ unit := by
  have hlt : spacing (m * unit / d) < 2 ^ (quantumExponent + 1) := by
    have hle := Nat.le_mul_of_pos_right (spacing (m * unit / d)) hd
    have hlt := Nat.lt_of_le_of_lt hle (spacing_mul_lt hm hd hd')
    rwa [unit, ← Nat.pow_add_one'] at hlt
  have hexponent := (Nat.pow_lt_pow_iff_right Nat.one_lt_two).mp hlt
  exact Nat.pow_dvd_pow 2 (Nat.le_of_lt_succ hexponent)

/-- A rounded quotient stays away from a whole number above the exact one, by two thirds of the
least distance that there is. -/
theorem nearestQuanta_div_le (hm : m < 2 ^ 53) (hd : 0 < d) (hd' : d ≤ 2 ^ 53) (h : m < d * n) :
    3 * (d * nearestQuanta (m * unit) d) + 2 * unit ≤ 3 * (d * (n * unit)) := by
  have hspacing := spacing_mul_lt hm hd hd'
  have hdvd := spacing_dvd_unit hm hd hd'
  have hhalf := (two_mul_roundHalfEven (Nat.mul_pos hd (spacing_pos (m * unit / d))) (m * unit)).2
  have hgap : (m + 1) * unit ≤ d * (n * unit) := by
    rw [← Nat.mul_assoc]
    exact Nat.mul_le_mul_right unit h
  rw [nearestQuanta]
  generalize spacing (m * unit / d) = step at hspacing hdvd hhalf ⊢
  generalize roundHalfEven (m * unit) (d * step) = k at hhalf ⊢
  rw [Nat.mul_assoc, Nat.mul_comm step] at hhalf
  rw [Nat.add_one_mul] at hgap
  generalize m * unit = num at hhalf hgap
  have hbelow : d * (k * step) < d * (n * unit) := by
    rw [Nat.mul_comm] at hspacing
    omega
  have hnext : k * step + step ≤ n * unit :=
    Nat.le_of_lt_add_of_dvd (Nat.add_lt_add_right (Nat.lt_of_mul_lt_mul_left hbelow) _)
      (Nat.dvd_add (Nat.dvd_mul_left _ _) (Nat.dvd_refl _)) (Nat.dvd_mul_left_of_dvd hdvd n)
  have hsum := Nat.mul_le_mul_left d hnext
  rw [Nat.mul_add] at hsum
  omega

end Division

/-! ### Sums that are cut off -/

/-- A small number that is added to one with `n` whole units does not change their number when twice
as much does not. -/
theorem floor_add_eq_ofNat {n p q : Nat} (hp : Representable p) (hq : Representable q)
    (hn : n < 2 ^ 53) (hle : n * unit ≤ p) (hlt : p + 2 * q < (n + 1) * unit) :
    (finite false p hp + finite false q hq).floor = ofNat n := by
  have hlower : p ≤ nearestQuanta (p + q) 1 :=
    le_nearestQuanta Nat.one_pos hp.2 (by omega)
  have hupper := nearestQuanta_add_le_add hp.2 q
  obtain ⟨hnext, -⟩ := ofNat_eq_finite (n := n + 1) hn
  have hlimit : (n + 1) * unit < overflow := hnext.1
  have hsum : Representable (nearestQuanta (p + q) 1) :=
    ⟨by omega, spacing_dvd_nearestQuanta _ _⟩
  have hdiv : nearestQuanta (p + q) 1 / unit = n :=
    Nat.div_eq_of_lt_le (by omega) (by omega)
  rw [add_eq, nearest_eq_finite rfl hsum, floor_finite_false, hdiv, ofNat]

/-- A number with as many whole units as the quotient of two natural numbers, which stays away from
the next whole number. -/
inductive IsQuotient (m d : Nat) : Binary64 → Prop where
  | intro {p : Nat} (hp : Representable p) (hle : m / d * unit ≤ p)
      (hlt : 3 * (d * p) + 2 * unit ≤ 3 * (d * ((m / d + 1) * unit))) :
      IsQuotient m d (finite false p hp)

section Division

variable {m d : Nat}

theorem isQuotient_ofNat (hm : m ≤ 2 ^ 53) : IsQuotient m 1 (ofNat m) := by
  obtain ⟨hp, heq⟩ := ofNat_eq_finite hm
  rw [heq]
  refine .intro hp ?_ ?_
  · rw [Nat.div_one]
  · rw [Nat.div_one, Nat.add_one_mul m]
    omega

theorem isQuotient_div (hm : m < 2 ^ 53) (hd : 0 < d) (hd' : d ≤ 2 ^ 53) :
    IsQuotient m d (ofNat m / ofNat d) := by
  obtain ⟨hm', hmeq⟩ := ofNat_eq_finite (Nat.le_of_lt hm)
  obtain ⟨hdunit, hdeq⟩ := ofNat_eq_finite hd'
  obtain ⟨hone, -⟩ := ofNat_eq_finite (Nat.le_trans (Nat.div_le_self m d) (Nat.le_of_lt hm))
  have hpos : 0 < d * unit := Nat.mul_pos hd unit_pos
  have hdivision : ofNat m / ofNat d = nearest false (m * unit) d := by
    rw [hmeq, hdeq, div_eq hm' hdunit (Nat.ne_of_gt hpos)]
    exact nearest_eq_of_cross false hpos hd (by rw [Nat.mul_assoc, Nat.mul_comm unit])
  have hfinite : Representable (nearestQuanta (m * unit) d) := by
    refine ⟨?_, spacing_dvd_nearestQuanta _ _⟩
    refine Nat.lt_of_le_of_lt (nearestQuanta_le hd hm'.2 ?_) hm'.1
    exact Nat.le_mul_of_pos_left _ hd
  rw [hdivision, nearest_eq_finite rfl hfinite]
  refine .intro hfinite (le_nearestQuanta hd hone.2 ?_) ?_
  · rw [← Nat.mul_assoc]
    exact Nat.mul_le_mul_right unit (Nat.mul_div_le m d)
  · exact nearestQuanta_div_le hm hd hd' (Nat.lt_mul_div_succ m hd)

/-- A number of less than the `2 ^ 29`th part of one that is added before the fraction of a quotient
is cut off makes no difference. -/
theorem IsQuotient.floor_add {x : Binary64} (hx : IsQuotient m d x) (hm : m < 2 ^ 53)
    (hd : d ≤ 2 ^ 20) {q : Nat} (hq : Representable q) (hsmall : 2 ^ 29 * q ≤ unit) :
    (x + finite false q hq).floor = ofNat (m / d) := by
  cases hx with
  | @intro p hp hle hlt =>
    refine floor_add_eq_ofNat hp hq (Nat.lt_of_le_of_lt (Nat.div_le_self m d) hm) hle ?_
    have hproduct : d * q ≤ 2 ^ 20 * q := Nat.mul_le_mul_right q hd
    have hunit := unit_pos
    have hscaled : d * (p + 2 * q) < d * ((m / d + 1) * unit) := by
      rw [Nat.mul_add, Nat.mul_left_comm]
      omega
    exact Nat.lt_of_mul_lt_mul_left hscaled

end Division

end Binary64

end RoutineTiming
