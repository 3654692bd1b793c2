import RoutineTiming.Proofs.Binary64.Order
import RoutineTiming.Proofs.Decimal.Fixed
import RoutineTiming.Proofs.Report.Numbers

/-!
# Magnitudes in words

A number is scaled to a unit, a billionth is added, and the fraction is cut off. In one unit each of
these steps keeps the order, so the whole units of a number lie between those of the two numbers
that bound its unit, and a bound of a unit decides about all numbers on one side of it.

## Main definitions

* `Magnitude.unitsIn` : the whole units of a number in a given unit.
* `Magnitude.least`, `Magnitude.most` : the numbers that are counted in a unit.
* `Magnitude.last` : the largest number that has at most three digits in a unit.
* `Magnitude.IsBounded` : what is shown at the bounds of a unit.

## Main results

* `Magnitude.unitsIn_le_unitsIn` : greater numbers have no fewer whole units.
* `Magnitude.exponent_le_exponent` : greater numbers are counted in units that are no smaller.
* `wholeUnits_cases`, `exists_wholeUnits` : whole units are whole numbers.
* `humanMagnitude_digits` : a number is shown with at most three digits, unless it is next to the
  bound of its unit.
-/

namespace RoutineTiming

namespace Magnitude

/-! ### Constants -/

theorem one_le_million : (1 : Binary64) ≤ 1e6 := by
  rw [Binary64.million_eq]
  exact Binary64.one_le_ofNat (by decide)

theorem thousand_eq : (1e3 : Binary64) = Binary64.ofNat 1000 := by
  decide +kernel

theorem isAmount_thousand : (1e3 : Binary64).IsAmount 10 := by
  rw [thousand_eq]
  exact Binary64.isAmount_ofNat (by decide) (by decide)

theorem one_le_thousand : (1 : Binary64) ≤ 1e3 := by
  rw [thousand_eq]
  exact Binary64.one_le_ofNat (by decide)

/-- What is added before a fraction is cut off: less than the `2 ^ 29`th part of one. -/
theorem exists_billionth :
    ∃ c hc, (1e-9 : Binary64) = .finite false c hc ∧ 0 < c ∧ 2 ^ 29 * c ≤ Binary64.unit :=
  ⟨Binary64.nearestQuanta Binary64.unit (10 ^ 9), by decide +kernel, by decide +kernel,
    by decide +kernel, by decide +kernel⟩

theorem isAmount_billionth : (1e-9 : Binary64).IsAmount 0 := by
  obtain ⟨c, hc, heq, -, hle⟩ := exists_billionth
  have hone : c ≤ Binary64.unit := by omega
  rw [heq]
  refine .intro hc ?_
  rw [Nat.add_zero]
  exact hone

/-! ### Units -/

/-- The number of whole units of a number in a given unit. -/
def unitsIn (magnitude : Magnitude) (x : Binary64) : Binary64 :=
  (scale x magnitude + 1e-9).floor

theorem wholeUnits_eq (x : Binary64) : wholeUnits x = (of x).unitsIn x := rfl

section Order

variable {x y : Binary64}

theorem scale_le_scale (magnitude : Magnitude) (hx : x.isFinite = true) (hy : y.isFinite = true)
    (h : x ≤ y) : scale x magnitude ≤ scale y magnitude := by
  cases magnitude with
  | micro => exact Binary64.mul_le_mul_right Binary64.isAmount_million hx hy h
  | milli => exact Binary64.mul_le_mul_right isAmount_thousand hx hy h
  | one => exact h
  | kilo => exact Binary64.div_le_div_right isAmount_thousand one_le_thousand hx hy h
  | mega => exact Binary64.div_le_div_right Binary64.isAmount_million one_le_million hx hy h

theorem unitsIn_le_unitsIn (magnitude : Magnitude) (hx : x.isFinite = true)
    (hy : y.isFinite = true) (h : x ≤ y) : magnitude.unitsIn x ≤ magnitude.unitsIn y :=
  Binary64.floor_le_floor
    (Binary64.add_le_add_right isAmount_billionth (scale_le_scale magnitude hx hy h))

end Order

/-- The power of ten of the unit. -/
def exponent : Magnitude → ℤ
  | .micro => -6
  | .milli => -3
  | .one => 0
  | .kilo => 3
  | .mega => 6

theorem exponent_injective {u v : Magnitude} (h : u.exponent = v.exponent) : u = v := by
  cases u <;> cases v <;> simp [exponent] at h ⊢

theorem ne_mega_of_lt {u v : Magnitude} (h : u.exponent < v.exponent) : u ≠ .mega := by
  rintro rfl
  revert h
  cases v <;> decide

theorem ne_micro_of_lt {u v : Magnitude} (h : u.exponent < v.exponent) : v ≠ .micro := by
  rintro rfl
  revert h
  cases u <;> decide

/-- The next greater unit. -/
def next : Magnitude → Magnitude
  | .micro => .milli
  | .milli => .one
  | .one => .kilo
  | .kilo => .mega
  | .mega => .mega

theorem exponent_next_le {u v : Magnitude} (h : u.exponent < v.exponent) :
    u.next.exponent ≤ v.exponent := by
  revert h
  cases u <;> cases v <;> decide

/-! ### Bounds of units -/

/-- The least number that is counted in the unit. -/
def least : Magnitude → Binary64
  | .micro => .infinite true
  | .milli => 1e-3
  | .one => 1
  | .kilo => 1e3
  | .mega => 1e6

/-- A number that no number in the unit exceeds. -/
def most : Magnitude → Binary64
  | .mega => Binary64.largest
  | magnitude => magnitude.next.least

/-- The largest number that is shown with at most three digits in the unit. The next greater unit
begins a bit later, about a billionth of its thousandth. -/
def last : Magnitude → Binary64
  | .micro => 0.000999999999999
  | .milli => 0.9999999999989999
  | .one => 999.9999999989999
  | .kilo => 999999.9999989999
  | .mega => .infinite false

/-- What is shown at the bounds of a unit: the least number as at least one, the greatest one as at
most a thousand, and a thousand is reached right behind the last number with three digits. -/
structure IsBounded (magnitude : Magnitude) : Prop where
  isNaN_least : magnitude.least.isNaN = false
  zero_le_scale : 0 ≤ scale 0 magnitude
  isFinite_most : magnitude.most.isFinite = true
  isFinite_unitsIn_most : (magnitude.unitsIn magnitude.most).isFinite = true
  isFinite_least : magnitude ≠ .micro → magnitude.least.isFinite = true
  one_le_unitsIn_least : magnitude ≠ .micro → 1 ≤ magnitude.unitsIn magnitude.least
  unitsIn_most_le : magnitude ≠ .mega → magnitude.unitsIn magnitude.most ≤ 1000
  isFinite_last : magnitude ≠ .mega → magnitude.last.isFinite = true
  isFinite_above_last : magnitude ≠ .mega → magnitude.last.above.isFinite = true
  unitsIn_last_le : magnitude ≠ .mega → magnitude.unitsIn magnitude.last ≤ 999
  le_unitsIn_above_last : magnitude ≠ .mega → 1000 ≤ magnitude.unitsIn magnitude.last.above

theorem isBounded (magnitude : Magnitude) : magnitude.IsBounded := by
  cases magnitude <;> constructor <;> decide +kernel

/-- Greater units begin at greater numbers. -/
theorem least_le_least {u v : Magnitude} (h : u.exponent ≤ v.exponent) : u.least ≤ v.least := by
  revert h
  cases u <;> cases v <;> decide +kernel

section Ranges

variable {x : Binary64}

theorem least_le (hx : x.isNaN = false) : (of x).least ≤ x := by
  have hle {u : Magnitude} (hnot : ¬ x < u.least) : u.least ≤ x :=
    (Binary64.le_or_lt u.isBounded.isNaN_least hx).resolve_right hnot
  rw [of]
  split
  · exact Binary64.infinite_true_le hx
  · split
    · next hmilli _ => exact hle (u := .milli) hmilli
    · split
      · next hmega => exact hmega
      · split
        · next hkilo => exact hkilo
        · next hone _ _ => exact hle (u := .one) hone

theorem lt_least_next (hx : x.isNaN = false) (h : of x ≠ .mega) : x < (of x).next.least := by
  have hlt {u : Magnitude} (hnot : ¬ u.least ≤ x) : x < u.least :=
    (Binary64.le_or_lt u.isBounded.isNaN_least hx).resolve_left hnot
  rw [of] at h ⊢
  split
  · assumption
  · split
    · assumption
    · split
      · next hmilli hone hmega => simp [hmilli, hone, hmega] at h
      · split
        · next hmega _ => exact hlt (u := .mega) hmega
        · next hkilo => exact hlt (u := .kilo) hkilo

theorem le_most (h : x.isFinite = true) : x ≤ (of x).most := by
  have hx : x.isNaN = false := Binary64.isNaN_of_isFinite h
  by_cases hmega : of x = .mega
  · rw [hmega]
    exact Binary64.le_largest h
  · have hlt := lt_least_next hx hmega
    revert hmega hlt
    cases of x with
    | mega => exact fun hne => absurd rfl hne
    | _ => exact fun _ hlt => Binary64.le_of_lt hlt

/-- Greater numbers are counted in units that are no smaller. -/
theorem exponent_le_exponent {y : Binary64} (h : x ≤ y) : (of x).exponent ≤ (of y).exponent := by
  obtain ⟨hx, hy⟩ := Binary64.isNaN_of_le h
  by_contra hlt
  have hlt := Int.not_le.mp hlt
  have hnext := lt_least_next hy (ne_mega_of_lt hlt)
  have hbelow := Binary64.lt_of_lt_of_le hnext (least_le_least (exponent_next_le hlt))
  exact Binary64.not_le_of_lt (Binary64.lt_of_lt_of_le hbelow (least_le hx)) h

end Ranges

end Magnitude

/-! ### Whole units -/

section WholeUnits

variable {x : Binary64}

theorem wholeUnits_le_most (h : x.isFinite = true) :
    wholeUnits x ≤ (Magnitude.of x).unitsIn (Magnitude.of x).most :=
  Magnitude.unitsIn_le_unitsIn _ h (Magnitude.isBounded _).isFinite_most (Magnitude.le_most h)

theorem wholeUnits_ne_infinite (h : x.isFinite = true) : wholeUnits x ≠ .infinite false := by
  intro heq
  have hle := wholeUnits_le_most h
  have hmost := (Magnitude.of x).isBounded.isFinite_unitsIn_most
  rw [heq] at hle
  rw [Binary64.eq_of_infinite_false_le hle] at hmost
  cases hmost

/-- A finite number has a whole number of units, unless it is so far below zero that its scaling
overflows. -/
theorem wholeUnits_cases (h : x.isFinite = true) :
    wholeUnits x = .infinite true ∨
      ∃ negative n hn, wholeUnits x = .finite negative (n * Binary64.unit) hn := by
  have hnumber := (Binary64.isNaN_of_le (wholeUnits_le_most h)).1
  have hbounded := wholeUnits_ne_infinite h
  rw [wholeUnits] at hnumber hbounded ⊢
  generalize Magnitude.scale x (Magnitude.of x) + 1e-9 = y at hnumber hbounded ⊢
  cases y with
  | nan => cases hnumber
  | infinite negative =>
    cases negative with
    | false => exact absurd rfl hbounded
    | true => exact .inl rfl
  | finite negative q hq =>
    obtain ⟨n, hn, hfloor, -⟩ := Binary64.exists_floor negative hq
    exact .inr ⟨negative, n, hn, hfloor⟩

/-- A number that is not below zero has a natural number of units. -/
theorem exists_wholeUnits (h : x.isFinite = true) (hzero : 0 ≤ x) :
    ∃ n hn, wholeUnits x = .finite false (n * Binary64.unit) hn := by
  obtain ⟨c, hc, hbillionth, hpos, -⟩ := Magnitude.exists_billionth
  have hbounded := wholeUnits_ne_infinite h
  have hscale : 0 ≤ Magnitude.scale x (Magnitude.of x) :=
    Binary64.le_trans (Magnitude.isBounded _).zero_le_scale
      (Magnitude.scale_le_scale _ Binary64.isFinite_zero h hzero)
  rw [wholeUnits, hbillionth] at hbounded ⊢
  exact (Binary64.exists_floor_add hc hpos hscale).resolve_left hbounded

theorem one_le_wholeUnits (h : x.isFinite = true) (hne : Magnitude.of x ≠ .micro) :
    1 ≤ wholeUnits x := by
  have hbounded := (Magnitude.of x).isBounded
  exact Binary64.le_trans (hbounded.one_le_unitsIn_least hne)
    (Magnitude.unitsIn_le_unitsIn _ (hbounded.isFinite_least hne) h
      (Magnitude.least_le (Binary64.isNaN_of_isFinite h)))

theorem wholeUnits_le_thousand (h : x.isFinite = true) (hne : Magnitude.of x ≠ .mega) :
    wholeUnits x ≤ 1000 :=
  Binary64.le_trans (wholeUnits_le_most h) ((Magnitude.isBounded _).unitsIn_most_le hne)

theorem wholeUnits_lt_thousand_iff (h : x.isFinite = true) (hne : Magnitude.of x ≠ .mega) {n : Nat}
    {hn : Binary64.Representable (n * Binary64.unit)}
    (hunits : wholeUnits x = .finite false (n * Binary64.unit) hn) :
    n < 1000 ↔ x ≤ (Magnitude.of x).last := by
  have hbounded := (Magnitude.of x).isBounded
  have hlast := hbounded.isFinite_last hne
  constructor
  · intro hlt
    refine (Binary64.le_or_lt (Binary64.isNaN_of_isFinite h)
      (Binary64.isNaN_of_isFinite hlast)).resolve_right fun hover => ?_
    have hle : 1000 ≤ wholeUnits x :=
      Binary64.le_trans (hbounded.le_unitsIn_above_last hne)
        (Magnitude.unitsIn_le_unitsIn _ (hbounded.isFinite_above_last hne) h
          (Binary64.above_le hover))
    rw [hunits] at hle
    have hle : 1000 ≤ n := (Binary64.ofNat_le_whole_iff hn (by decide)).mp hle
    omega
  · intro hle
    have hle : wholeUnits x ≤ 999 :=
      Binary64.le_trans (Magnitude.unitsIn_le_unitsIn _ h hlast hle)
        (hbounded.unitsIn_last_le hne)
    rw [hunits] at hle
    have hle : n ≤ 999 := (Binary64.whole_le_ofNat_iff hn (by decide)).mp hle
    omega

end WholeUnits

/-- **At most three digits but for the last billionth.** A number that is not below zero is shown as
a natural number of units, at least one but for the smallest unit. Up to a last number of each unit
it is below a thousand; between this number and the next greater unit it is a thousand, because of
what is added before the fraction is cut off. -/
theorem humanMagnitude_digits {x : Binary64} (h : x.isFinite = true) (hzero : 0 ≤ x) :
    ∃ n, humanMagnitude x = numeral n ++ (Magnitude.of x).letter ∧
      (Magnitude.of x ≠ .micro → 1 ≤ n) ∧
      (Magnitude.of x ≠ .mega → n ≤ 1000 ∧ (n < 1000 ↔ x ≤ (Magnitude.of x).last)) := by
  obtain ⟨n, hn, hunits⟩ := exists_wholeUnits h hzero
  refine ⟨n, ?_, fun hne => ?_, fun hne => ⟨?_, wholeUnits_lt_thousand_iff h hne hunits⟩⟩
  · rw [humanMagnitude, hunits, Binary64.toFixed_whole]
    rfl
  · have hle := one_le_wholeUnits h hne
    rw [hunits] at hle
    exact (Binary64.ofNat_le_whole_iff hn (by decide)).mp hle
  · have hle := wholeUnits_le_thousand h hne
    rw [hunits] at hle
    exact (Binary64.whole_le_ofNat_iff hn (by decide)).mp hle

/-- A number just below a million is shown with three digits. -/
theorem humanMagnitude_digits_kilo :
    (999999.5 : Binary64).isFinite = true ∧ (0 : Binary64) ≤ 999999.5 ∧
      humanMagnitude 999999.5 = "999k" ∧
      ∃ n, "999k" = numeral n ++ "k" ∧ 1 ≤ n ∧ n < 1000 := by
  have hfinite : (999999.5 : Binary64).isFinite = true := by decide +kernel
  have hzero : (0 : Binary64) ≤ 999999.5 := by decide +kernel
  have hunit : Magnitude.of 999999.5 = .kilo := by decide +kernel
  have hlast : (999999.5 : Binary64) ≤ Magnitude.last .kilo := by decide +kernel
  have hshown : humanMagnitude 999999.5 = "999k" := by decide +kernel
  obtain ⟨n, htext, hone, hthousand⟩ := humanMagnitude_digits hfinite hzero
  rw [hunit] at htext hone hthousand
  exact ⟨hfinite, hzero, hshown, n, hshown.symm.trans htext, hone (by decide),
    (hthousand (by decide)).2.mpr hlast⟩

/-- The largest number of each unit, the greatest unit excepted, is shown as a thousand. -/
theorem humanMagnitude_reaches_thousand :
    (Magnitude.of 0.0009999999999999998 = .micro ∧
      humanMagnitude 0.0009999999999999998 = "1000u") ∧
    (Magnitude.of 0.9999999999999999 = .milli ∧ humanMagnitude 0.9999999999999999 = "1000m") ∧
    (Magnitude.of 999.9999999999999 = .one ∧ humanMagnitude 999.9999999999999 = "1000") ∧
    (Magnitude.of 999999.9999999999 = .kilo ∧ humanMagnitude 999999.9999999999 = "1000k") := by
  decide +kernel

end RoutineTiming
