import RoutineTiming.Proofs.Binary64.Amount

/-!
# Rounding keeps the order

A greater quotient is rounded to a number that is no smaller, so sums and quotients of finite
numbers grow with their operands. A number of at least `2 ^ 53` does not change when less than one
is added to it, so a whole number and a fraction never come to more than the next whole number.

## Main results

* `Binary64.nearest_mono` : rounding keeps the order.
* `Binary64.ofNat_mono`, `Binary64.IsAmount.add_mono`, `Binary64.IsAmount.div_mono` : what follows
  for the operations.
* `Binary64.nearest_add_of_lt_unit` : little is lost next to a large number.
* `Binary64.ofNat_div_lt_unit` : proper fractions stay below one.
* `Binary64.ofNat_add_le_ofNat_succ` : a whole number and a fraction.
-/

namespace RoutineTiming

theorem roundHalfEven_mono {num num' : Nat} (den : Nat) (h : num ≤ num') :
    roundHalfEven num den ≤ roundHalfEven num' den := by
  rcases Nat.eq_or_lt_of_le (Nat.div_le_div_right (c := den) h) with heq | hlt
  · have hrest : num % den ≤ num' % den := by
      have hnum := Nat.div_add_mod num den
      have hnum' := Nat.div_add_mod num' den
      rw [← heq] at hnum'
      omega
    simp only [roundHalfEven, ← heq]
    split <;> split <;> omega
  · rcases roundHalfEven_eq_or num den with hdown | hup
    · rcases roundHalfEven_eq_or num' den with hdown' | hup' <;> omega
    · rcases roundHalfEven_eq_or num' den with hdown' | hup' <;> omega

/-- Less than half a unit above an integer is rounded down to it. -/
theorem roundHalfEven_of_lt_half {den rest : Nat} (h : 2 * rest < den) (n : Nat) :
    roundHalfEven (den * n + rest) den = n := by
  have hwhole : (den * n + rest) / den = n := by
    rw [Nat.mul_add_div (by omega), Nat.div_eq_of_lt (by omega), Nat.add_zero]
  have hrest : (den * n + rest) % den = rest := by
    rw [Nat.mul_add_mod, Nat.mod_eq_of_lt (by omega)]
  simp only [roundHalfEven, hwhole, hrest, if_pos (Or.inl h)]

namespace Binary64

/-- Of two quotients with one denominator the greater one is rounded to no less. -/
theorem nearestQuanta_mono {num num' den : Nat} (hden : 0 < den) (h : num ≤ num') :
    nearestQuanta num den ≤ nearestQuanta num' den := by
  have hle : num / den ≤ num' / den := Nat.div_le_div_right h
  rcases Nat.eq_or_lt_of_le (log2_le_log2 hle) with hlog | hlog
  · have hspacing : spacing (num / den) = spacing (num' / den) := by
      rw [spacing, spacing, hlog]
    rw [nearestQuanta, nearestQuanta, hspacing]
    exact Nat.mul_le_mul_right _ (roundHalfEven_mono _ h)
  · -- The power of two that the greater quotient begins with separates the two.
    have hne : num' / den ≠ 0 := fun h0 => by simp [h0] at hlog
    have hbelow : num / den < 2 ^ (num' / den).log2 :=
      Nat.lt_of_lt_of_le Nat.lt_log2_self (Nat.pow_le_pow_right (by decide) hlog)
    have hnum : num ≤ den * 2 ^ (num' / den).log2 := by
      rw [Nat.div_lt_iff_lt_mul hden, Nat.mul_comm] at hbelow
      exact Nat.le_of_lt hbelow
    have hnum' : den * 2 ^ (num' / den).log2 ≤ num' := by
      rw [Nat.mul_comm]
      exact (Nat.le_div_iff_mul_le hden).mp (Nat.log2_self_le hne)
    exact Nat.le_trans (nearestQuanta_le hden (spacing_dvd_two_pow _) hnum)
      (le_nearestQuanta hden (spacing_dvd_two_pow _) hnum')

/-- Rounding keeps the order. -/
theorem nearest_mono {num num' den : Nat} (hden : 0 < den) (h : num ≤ num') :
    nearest false num den ≤ nearest false num' den := by
  have hle := nearestQuanta_mono hden h
  rw [nearest, nearest]
  split
  · next hfinite =>
    split
    · exact le_finite_iff.mpr hle
    · exact le_iff.mpr ⟨_, _, rfl, rfl, Int.ofNat_le.mpr (Nat.le_of_lt hfinite)⟩
  · next hinfinite =>
    rw [dif_neg fun hfinite => hinfinite (Nat.lt_of_le_of_lt hle hfinite)]
    exact le_iff.mpr ⟨_, _, rfl, rfl, Int.le_refl _⟩

theorem nearest_eq_finite {num den quanta : Nat} (h : nearestQuanta num den = quanta)
    (hquanta : Representable quanta) : nearest false num den = finite false quanta hquanta := by
  subst h
  rw [nearest, dif_pos hquanta.1]

/-- Numbers above a representable one, up to the next one, have the same spacing. -/
theorem spacing_add {p q : Nat} (hp : spacing p ∣ p) (hne : p ≠ 0) (hq : q < spacing p) :
    spacing (p + q) = spacing p := by
  have hnext : p + spacing p ≤ 2 ^ (p.log2 + 1) := by
    refine Nat.le_of_lt_add_of_dvd ?_ (Nat.dvd_add hp (Nat.dvd_refl _))
      (Nat.pow_dvd_pow 2 (by omega))
    exact Nat.add_lt_add_right Nat.lt_log2_self _
  have hlog : (p + q).log2 = p.log2 := by
    rw [Nat.log2_eq_iff (by omega)]
    exact ⟨Nat.le_trans (Nat.log2_self_le hne) (Nat.le_add_right p q), by omega⟩
  rw [spacing, spacing, hlog]

/-- Less than half the spacing that is added to a representable number is lost. -/
theorem nearestQuanta_add {p q : Nat} (hp : spacing p ∣ p) (hne : p ≠ 0)
    (hq : 2 * q < spacing p) : nearestQuanta (p + q) 1 = p := by
  have hround : roundHalfEven (p + q) (spacing p) * spacing p = p := by
    generalize spacing p = step at hp hq
    obtain ⟨m, rfl⟩ := hp
    rw [roundHalfEven_of_lt_half hq, Nat.mul_comm]
  rw [nearestQuanta, Nat.div_one, Nat.one_mul, spacing_add hp hne (by omega), hround]

/-- Numbers of at least `2 ^ 53` units are at least two units apart. -/
theorem two_pow_le_spacing {p e : Nat} (h : 2 ^ 53 * 2 ^ e ≤ p) : 2 * 2 ^ e ≤ spacing p := by
  have hne : p ≠ 0 := Nat.ne_of_gt
    (Nat.lt_of_lt_of_le (Nat.mul_pos (Nat.two_pow_pos 53) (Nat.two_pow_pos e)) h)
  have hlog : 53 + e ≤ p.log2 := by
    rw [Nat.le_log2 hne, Nat.pow_add]
    exact h
  rw [← Nat.pow_succ', spacing]
  exact Nat.pow_le_pow_right Nat.two_pos (by omega)

/-- Less than one that is added to a number of at least `2 ^ 53` is lost. -/
theorem nearest_add_of_lt_unit {p q : Nat} (hp : Representable p) (hlarge : 2 ^ 53 * unit ≤ p)
    (hq : q < unit) : nearest false (p + q) 1 = finite false p hp := by
  have hne : p ≠ 0 := Nat.ne_of_gt
    (Nat.lt_of_lt_of_le (Nat.mul_pos (Nat.two_pow_pos 53) unit_pos) hlarge)
  rw [unit] at hlarge hq
  have hspacing : 2 * q < spacing p :=
    Nat.lt_of_lt_of_le (Nat.mul_lt_mul_of_pos_left hq Nat.two_pos) (two_pow_le_spacing hlarge)
  exact nearest_eq_finite (nearestQuanta_add hp.2 hne hspacing) hp

theorem ofNat_mono {m n : Nat} (h : m ≤ n) : ofNat m ≤ ofNat n :=
  nearest_mono Nat.one_pos (Nat.mul_le_mul_right unit h)

/-- Numbers that are not too large are exact. -/
theorem ofNat_eq_finite {n : Nat} (h : n ≤ 2 ^ 53) :
    ∃ hn, ofNat n = finite false (n * unit) hn := by
  have hn : Representable (n * unit) :=
    ⟨Nat.lt_of_le_of_lt (Nat.mul_le_mul_right unit h) (by decide +kernel),
      spacing_dvd_mul_two_pow h quantumExponent⟩
  exact ⟨hn, nearest_of_representable hn⟩

/-- A proper fraction of numbers that are not too large is rounded below one. -/
theorem ofNat_div_lt_unit {m n : Nat} (h : m < n) (hn : n ≤ 2 ^ 53) :
    ∃ quanta hquanta, ofNat m / ofNat n = finite false quanta hquanta ∧ quanta < unit := by
  obtain ⟨hm, hmeq⟩ := ofNat_eq_finite (Nat.le_trans (Nat.le_of_lt h) hn)
  obtain ⟨hn', hneq⟩ := ofNat_eq_finite hn
  have hpos : 0 < n * unit := Nat.mul_pos (Nat.zero_lt_of_lt h) unit_pos
  obtain ⟨e, he⟩ : ∃ e, quantumExponent = 53 + e := ⟨1021, rfl⟩
  have hunit : unit = 2 ^ 53 * 2 ^ e := by rw [unit, he, Nat.pow_add]
  -- The greatest number below one has 53 digits that are all one.
  have hbelow : spacing ((2 ^ 53 - 1) * 2 ^ e) ∣ (2 ^ 53 - 1) * 2 ^ e :=
    spacing_dvd_mul_two_pow (by decide) e
  have hlt : (2 ^ 53 - 1) * 2 ^ e < unit :=
    hunit ▸ Nat.mul_lt_mul_of_pos_right (by decide) (Nat.two_pow_pos e)
  have hfactor : m * 2 ^ 53 ≤ n * (2 ^ 53 - 1) := by omega
  have hfraction : m * unit * unit ≤ n * unit * ((2 ^ 53 - 1) * 2 ^ e) := calc
    m * unit * unit = m * unit * (2 ^ 53 * 2 ^ e) := congrArg _ hunit
    _ = m * 2 ^ 53 * (unit * 2 ^ e) := Nat.mul_mul_mul_comm ..
    _ ≤ n * (2 ^ 53 - 1) * (unit * 2 ^ e) := Nat.mul_le_mul_right _ hfactor
    _ = n * unit * ((2 ^ 53 - 1) * 2 ^ e) := Nat.mul_mul_mul_comm ..
  have hquanta := Nat.lt_of_le_of_lt (nearestQuanta_le hpos hbelow hfraction) hlt
  have hfinite : Representable (nearestQuanta (m * unit * unit) (n * unit)) :=
    ⟨Nat.lt_trans hquanta representable_unit.1, spacing_dvd_nearestQuanta _ _⟩
  refine ⟨_, hfinite, ?_, hquanta⟩
  rw [hmeq, hneq, div_eq hm hn' (Nat.ne_of_gt hpos), nearest_eq_finite rfl hfinite]

/-- Less than one that is added to a natural number does not lead beyond the next one. -/
theorem ofNat_add_le_ofNat_succ {n quanta : Nat} (hn : n ≤ 2 ^ 64) (hquanta : Representable quanta)
    (hlt : quanta < unit) : ofNat n + finite false quanta hquanta ≤ ofNat (n + 1) := by
  rcases Nat.lt_or_ge n (2 ^ 53) with hsmall | hlarge
  · obtain ⟨hp, hexact⟩ := ofNat_eq_finite (Nat.le_of_lt hsmall)
    rw [hexact, add_eq]
    refine nearest_mono Nat.one_pos ?_
    rw [Nat.add_one_mul]
    exact Nat.add_le_add_left (Nat.le_of_lt hlt) _
  · have hle := ofNat_mono hlarge
    have hnext := ofNat_mono (Nat.le_succ n)
    obtain ⟨_, hexact⟩ := ofNat_eq_finite (Nat.le_refl (2 ^ 53))
    have hamount : (ofNat n).IsAmount 64 := isAmount_ofNat (by decide) hn
    rw [hexact] at hle
    generalize ofNat n = x at hle hnext hamount
    cases hamount with
    | intro hp _ =>
      rw [add_eq, nearest_add_of_lt_unit hp (le_finite_iff.mp hle) hlt]
      exact hnext

namespace IsAmount

variable {i j k : Nat} {x y z : Binary64}

theorem add_mono (hx : x.IsAmount i) (hy : y.IsAmount j) (hz : z.IsAmount k) (h : y ≤ z) :
    x + y ≤ x + z := by
  cases hx with
  | intro hp _ =>
    cases hy with
    | intro hq _ =>
      cases hz with
      | intro hr _ =>
        rw [add_eq, add_eq]
        exact nearest_mono Nat.one_pos (Nat.add_le_add_left (le_finite_iff.mp h) _)

theorem le_add (hx : x.IsAmount i) (hy : y.IsAmount j) : x ≤ x + y := by
  cases hx with
  | @intro p hp _ =>
    cases hy with
    | @intro q hq _ =>
      rw [add_eq]
      exact finite_le_nearest Nat.one_pos hp (by omega)

theorem div_mono (hx : x.IsAmount i) (hy : y.IsAmount j) (h : x ≤ y) (hz : 1 ≤ z) :
    x / z ≤ y / z := by
  cases hx with
  | @intro p hp _ =>
    cases hy with
    | @intro q hq _ =>
      rcases eq_of_one_le hz with rfl | ⟨quanta, hquanta, rfl, hunit⟩
      · exact le_iff.mpr ⟨0, 0, rfl, rfl, Int.le_refl 0⟩
      · have hpos : 0 < quanta := Nat.lt_of_lt_of_le unit_pos hunit
        rw [div_eq hp hquanta (Nat.ne_of_gt hpos), div_eq hq hquanta (Nat.ne_of_gt hpos)]
        exact nearest_mono hpos (Nat.mul_le_mul_right unit (le_finite_iff.mp h))

end IsAmount

end Binary64

end RoutineTiming
