import RoutineTiming.Proofs.Binary64.Monotone
import RoutineTiming.Proofs.Decimal.Shortest

/-!
# The order of numbers of either sign

The infinities are the ends of the order. A number and its negative are rounded alike, so rounding
keeps the order of signed quotients, and so do the operations with an amount and the cutting off of
fractions. Large numbers are whole, so that a fraction is cut off without any rounding.

## Main definitions

* `Binary64.above` : the next number above a positive one.
* `Binary64.largest` : the largest finite number.

## Main results

* `Binary64.nearest_le_nearest` : rounding keeps the order of signed quotients.
* `Binary64.add_le_add_right`, `Binary64.mul_le_mul_right`, `Binary64.div_le_div_right` : what
  follows for the operations.
* `Binary64.exists_floor`, `Binary64.floor_le_floor` : fractions that are cut off.
* `Binary64.above_le` : nothing lies between a number and the next one.
* `Binary64.le_largest` : the end of the finite numbers.
-/

namespace RoutineTiming.Binary64

/-! ### Order -/

@[simp]
theorem signed_false (n : Nat) : signed false n = n := rfl

@[simp]
theorem signed_true (n : Nat) : signed true n = -(n : Int) := rfl

theorem finite_le_finite {a b : Bool} {p q : Nat} {hp : Representable p} {hq : Representable q} :
    finite a p hp ≤ finite b q hq ↔ signed a p ≤ signed b q := by
  simp [le_iff, position]

theorem isNaN_of_le {x y : Binary64} (h : x ≤ y) : x.isNaN = false ∧ y.isNaN = false := by
  obtain ⟨_, _, hx, hy, -⟩ := le_iff.mp h
  cases x with
  | nan => cases hx
  | _ => cases y with
    | nan => cases hy
    | _ => exact ⟨rfl, rfl⟩

/-- The infinities are the ends of the order. -/
theorem exists_position {x : Binary64} (h : x.isNaN = false) :
    ∃ z, x.position = some z ∧ -(overflow : Int) ≤ z ∧ z ≤ overflow := by
  have hpos := Int.ofNat_lt.mpr overflow_pos
  cases x with
  | nan => cases h
  | infinite b => exact ⟨_, rfl, by cases b <;> simp only [signed_true, signed_false] <;> omega⟩
  | finite b q hq =>
    have hlt := Int.ofNat_lt.mpr hq.1
    exact ⟨_, rfl, by cases b <;> simp only [signed_true, signed_false] <;> omega⟩

theorem infinite_true_le {x : Binary64} (h : x.isNaN = false) : infinite true ≤ x := by
  obtain ⟨z, hz, hle, -⟩ := exists_position h
  exact le_iff.mpr ⟨_, _, rfl, hz, hle⟩

theorem le_infinite_false {x : Binary64} (h : x.isNaN = false) : x ≤ infinite false := by
  obtain ⟨z, hz, -, hle⟩ := exists_position h
  exact le_iff.mpr ⟨z, _, hz, rfl, hle⟩

/-- Only the infinities stand at the ends. -/
theorem eq_infinite_of_position {x : Binary64} {b : Bool}
    (h : x.position = some (signed b overflow)) : x = infinite b := by
  have hpos := overflow_pos
  cases x with
  | nan => cases h
  | infinite a =>
    have h : signed a overflow = signed b overflow := Option.some.inj h
    cases a <;> cases b <;> simp only [signed_true, signed_false] at h <;> first | rfl | omega
  | finite a q hq =>
    have h : signed a q = signed b overflow := Option.some.inj h
    have hlt := hq.1
    cases a <;> cases b <;> simp only [signed_true, signed_false] at h <;> omega

theorem eq_of_infinite_false_le {x : Binary64} (h : infinite false ≤ x) : x = infinite false := by
  obtain ⟨_, z, hover, hz, hle⟩ := le_iff.mp h
  obtain ⟨w, hw, -, hbound⟩ := exists_position (isNaN_of_le h).2
  have hover : (overflow : Int) = _ := Option.some.inj hover
  have hzw : z = w := Option.some.inj (hz.symm.trans hw)
  refine eq_infinite_of_position (hz.trans (congrArg some ?_))
  rw [signed_false]
  omega

theorem eq_of_le_infinite_true {x : Binary64} (h : x ≤ infinite true) : x = infinite true := by
  obtain ⟨z, _, hz, hover, hle⟩ := le_iff.mp h
  obtain ⟨w, hw, hbound, -⟩ := exists_position (isNaN_of_le h).1
  have hover : -(overflow : Int) = _ := Option.some.inj hover
  have hzw : z = w := Option.some.inj (hz.symm.trans hw)
  refine eq_infinite_of_position (hz.trans (congrArg some ?_))
  rw [signed_true]
  omega

theorem le_or_lt {x y : Binary64} (hx : x.isNaN = false) (hy : y.isNaN = false) :
    x ≤ y ∨ y < x := by
  obtain ⟨z, hz, -⟩ := exists_position hx
  obtain ⟨w, hw, -⟩ := exists_position hy
  by_cases h : z ≤ w
  · exact .inl (le_iff.mpr ⟨z, w, hz, hw, h⟩)
  · exact .inr (lt_iff.mpr ⟨w, z, hw, hz, Int.not_le.mp h⟩)

theorem lt_of_lt_of_le {x y z : Binary64} (hxy : x < y) (hyz : y ≤ z) : x < z := by
  obtain ⟨a, b, ha, hb, hab⟩ := lt_iff.mp hxy
  obtain ⟨b', c, hb', hc, hbc⟩ := le_iff.mp hyz
  have heq : b = b' := Option.some.inj (hb.symm.trans hb')
  exact lt_iff.mpr ⟨a, c, ha, hc, by omega⟩

theorem le_of_lt {x y : Binary64} (h : x < y) : x ≤ y := by
  obtain ⟨a, b, ha, hb, hab⟩ := lt_iff.mp h
  exact le_iff.mpr ⟨a, b, ha, hb, Int.le_of_lt hab⟩

theorem not_le_of_lt {x y : Binary64} (h : x < y) : ¬ y ≤ x := by
  intro hle
  obtain ⟨a, b, ha, hb, hab⟩ := lt_iff.mp (lt_of_lt_of_le h hle)
  have heq : a = b := Option.some.inj (ha.symm.trans hb)
  omega

/-- An operation that leaves the infinities as they are and keeps the order of finite numbers keeps
the order. -/
theorem le_of_finite {f : Binary64 → Binary64} (hinfinite : ∀ b, f (infinite b) = infinite b)
    (hnumber : ∀ x, x.isNaN = false → (f x).isNaN = false)
    (hfinite : ∀ {a b p q} (hp : Representable p) (hq : Representable q),
      signed a p ≤ signed b q → f (finite a p hp) ≤ f (finite b q hq))
    {x y : Binary64} (h : x ≤ y) : f x ≤ f y := by
  obtain ⟨hx, hy⟩ := isNaN_of_le h
  cases y with
  | nan => cases hy
  | infinite b =>
    cases b with
    | false =>
      rw [hinfinite]
      exact le_infinite_false (hnumber x hx)
    | true =>
      rw [eq_of_le_infinite_true h, hinfinite]
      exact infinite_true_le rfl
  | finite b q hq =>
    cases x with
    | nan => cases hx
    | infinite a =>
      cases a with
      | false => cases eq_of_infinite_false_le h
      | true =>
        rw [hinfinite]
        exact infinite_true_le (hnumber _ hy)
    | finite a p hp => exact hfinite hp hq (finite_le_finite.mp h)

/-! ### Rounding -/

/-- A function of counts that keeps the order and zero keeps the order of signed counts. -/
theorem signed_le_signed {f : Nat → Nat} (hf : ∀ {m n}, m ≤ n → f m ≤ f n) (hzero : f 0 = 0)
    {a b : Bool} {m n : Nat} (h : signed a m ≤ signed b n) : signed a (f m) ≤ signed b (f n) := by
  cases a <;> cases b <;> simp only [signed_true, signed_false] at h ⊢
  · exact Int.ofNat_le.mpr (hf (Int.ofNat_le.mp h))
  · have hm : m = 0 := by omega
    have hn : n = 0 := by omega
    rw [hm, hn, hzero]
    omega
  · omega
  · have := hf (show n ≤ m by omega)
    omega

/-- The place of a count of quanta, which is that of an infinity from the limit of the format on. -/
def capped (quanta : Nat) : Nat := if quanta < overflow then quanta else overflow

theorem capped_le_capped {p q : Nat} (h : p ≤ q) : capped p ≤ capped q := by
  rw [capped, capped]
  split <;> split <;> omega

theorem signed_natAbs (z : Int) : signed (z < 0) z.natAbs = z := by
  by_cases h : z < 0
  · rw [decide_eq_true h, signed_true]
    omega
  · rw [decide_eq_false h, signed_false]
    omega

theorem position_nearest (negative : Bool) (num den : Nat) :
    (nearest negative num den).position =
      some (signed negative (capped (nearestQuanta num den))) := by
  rw [nearest, capped]
  split <;> rfl

theorem isNaN_nearest (negative : Bool) (num den : Nat) :
    (nearest negative num den).isNaN = false := by
  rw [nearest]
  split <;> rfl

/-- Rounding keeps the order, whichever signs there are. -/
theorem nearest_le_nearest {a b : Bool} {m n den : Nat} (hden : 0 < den)
    (h : signed a m ≤ signed b n) : nearest a m den ≤ nearest b n den := by
  have hzero : capped (nearestQuanta 0 den) = 0 := by
    have hle : nearestQuanta 0 den ≤ 0 := nearestQuanta_le hden (Nat.dvd_zero _) (Nat.zero_le _)
    rw [Nat.le_zero.mp hle, capped, if_pos overflow_pos]
  have hmono {m n : Nat} (hle : m ≤ n) :
      capped (nearestQuanta m den) ≤ capped (nearestQuanta n den) :=
    capped_le_capped (nearestQuanta_mono hden hle)
  exact le_iff.mpr ⟨_, _, position_nearest .., position_nearest ..,
    signed_le_signed (f := fun m => capped (nearestQuanta m den)) hmono hzero h⟩

/-! ### Operations -/

theorem finite_mul_finite (a : Bool) {p r : Nat} (hp : Representable p) (hr : Representable r) :
    finite a p hp * finite false r hr = nearest a (p * r) unit := by
  change Binary64.mul (finite a p hp) (finite false r hr) = _
  rw [Binary64.mul, Bool.bne_false]

theorem finite_div_finite (a : Bool) {p r : Nat} (hp : Representable p) (hr : Representable r)
    (h : r ≠ 0) : finite a p hp / finite false r hr = nearest a (p * unit) r := by
  change Binary64.div (finite a p hp) (finite false r hr) = _
  rw [Binary64.div, if_neg h, Bool.bne_false]

theorem infinite_add_finite (a : Bool) {r : Nat} (hr : Representable r) :
    infinite a + finite false r hr = infinite a := rfl

/-- A sum has the place of its rounding, also where it cancels. -/
theorem position_finite_add (a : Bool) {p r : Nat} (hp : Representable p) (hr : Representable r) :
    (finite a p hp + finite false r hr).position =
      (nearest (signed a p + r < 0) (signed a p + r).natAbs 1).position := by
  rw [finite_add_finite]
  split
  · next h =>
    change signed a p + r = 0 at h
    rw [h, decide_eq_false (Int.lt_irrefl 0), Int.natAbs_zero, nearest_zero]
    cases a <;> rfl
  · rfl

section Constant

variable {k : Nat} {c x y : Binary64}

/-- Numbers that are scaled by an amount keep their order. -/
theorem mul_le_mul_right (hc : c.IsAmount k) (hx : x.isFinite = true) (hy : y.isFinite = true)
    (h : x ≤ y) : x * c ≤ y * c := by
  cases hc with
  | @intro r hr _ =>
    cases x with
    | finite a p hp =>
      cases y with
      | finite b q hq =>
        have hle : signed a (p * r) ≤ signed b (q * r) :=
          signed_le_signed (Nat.mul_le_mul_right r) (Nat.zero_mul r) (finite_le_finite.mp h)
        rw [finite_mul_finite, finite_mul_finite]
        exact nearest_le_nearest unit_pos hle
      | _ => cases hy
    | _ => cases hx

/-- Numbers that are divided by a finite number of at least one keep their order. -/
theorem div_le_div_right (hc : c.IsAmount k) (hone : 1 ≤ c) (hx : x.isFinite = true)
    (hy : y.isFinite = true) (h : x ≤ y) : x / c ≤ y / c := by
  cases hc with
  | @intro r hr _ =>
    have hpos : 0 < r := by
      rw [one_eq, le_finite_iff] at hone
      exact Nat.lt_of_lt_of_le unit_pos hone
    cases x with
    | finite a p hp =>
      cases y with
      | finite b q hq =>
        have hle : signed a (p * unit) ≤ signed b (q * unit) :=
          signed_le_signed (Nat.mul_le_mul_right unit) (Nat.zero_mul unit) (finite_le_finite.mp h)
        rw [finite_div_finite a hp hr (Nat.ne_of_gt hpos),
          finite_div_finite b hq hr (Nat.ne_of_gt hpos)]
        exact nearest_le_nearest hpos hle
      | _ => cases hy
    | _ => cases hx

/-- Numbers to which an amount is added keep their order. -/
theorem add_le_add_right (hc : c.IsAmount k) (h : x ≤ y) : x + c ≤ y + c := by
  cases hc with
  | @intro r hr _ =>
    refine le_of_finite (f := (· + finite false r hr)) (infinite_add_finite · hr) (fun x hx => ?_)
      (fun {a b p q} hp hq hle => ?_) h
    · cases x with
      | nan => cases hx
      | infinite a => rfl
      | finite a p hp =>
        rw [finite_add_finite]
        split
        · rfl
        · exact isNaN_nearest _ _ _
    · have hnearest : nearest (signed a p + r < 0) (signed a p + r).natAbs 1 ≤
          nearest (signed b q + r < 0) (signed b q + r).natAbs 1 := by
        refine nearest_le_nearest Nat.one_pos ?_
        rw [signed_natAbs, signed_natAbs]
        omega
      rw [le_iff, position_finite_add, position_finite_add]
      exact le_iff.mp hnearest

/-- A number that is not below zero stays without a sign when a positive amount is added, also if it
is negative zero. -/
theorem eq_nearest_add {r : Nat} (hr : Representable r) (hpos : 0 < r) (hx : x.isFinite = true)
    (h : 0 ≤ x) : ∃ quanta, x + finite false r hr = nearest false quanta 1 := by
  cases x with
  | finite a p hp =>
    obtain ⟨z, w, hz, hw, hle⟩ := le_iff.mp h
    have hz : (0 : Int) = z := Option.some.inj (position_zero.symm.trans hz)
    have hw : signed a p = w := Option.some.inj hw
    have hsum : 0 < signed a p + signed false r := by
      rw [signed_false]
      omega
    rw [finite_add_finite, if_neg (Int.ne_of_gt hsum),
      decide_eq_false (Int.not_lt.mpr (Int.le_of_lt hsum))]
    exact ⟨_, rfl⟩
  | _ => cases hx

end Constant

/-! ### Whole numbers -/

/-- A quotient that is rounded up, as the negative of one that is rounded down. -/
theorem neg_ceilDiv (q : Nat) {u : Nat} (hu : 0 < u) :
    -(((q + u - 1) / u : Nat) : Int) = -(q : Int) / u := by
  have hsplit := Nat.div_add_mod (q + u - 1) u
  have hrest := Nat.mod_lt (q + u - 1) hu
  generalize (q + u - 1) / u = n at hsplit ⊢
  generalize (q + u - 1) % u = rest at hsplit hrest
  have hunique : -(q : Int) / u = -n ∧ -(q : Int) % u = u - 1 - rest := by
    rw [Int.ediv_emod_unique (Int.ofNat_lt.mpr hu), Int.mul_neg]
    have hsplit : (u : Int) * n + rest = q + u - 1 := by omega
    exact ⟨by omega, by omega, by omega⟩
  exact hunique.1.symm

/-- Large numbers are whole, so that a whole number next to a number of the format belongs to the
format too. -/
theorem Representable.of_next {q n : Nat} (hq : Representable q)
    (h : n = q / unit ∨ n = (q + unit - 1) / unit) : Representable (n * unit) := by
  have hunit := unit_pos
  rcases Nat.lt_or_ge q (2 ^ 53 * unit) with hsmall | hlarge
  · have hdown : q / unit < 2 ^ 53 := (Nat.div_lt_iff_lt_mul hunit).mpr hsmall
    have hup : (q + unit - 1) / unit ≤ q / unit + 1 := by
      rw [← Nat.add_div_right _ hunit]
      exact Nat.div_le_div_right (by omega)
    obtain ⟨hn, -⟩ := ofNat_eq_finite (n := n) (by omega)
    exact hn
  · have hne : q ≠ 0 := Nat.ne_of_gt
      (Nat.lt_of_lt_of_le (Nat.mul_pos (Nat.two_pow_pos 53) hunit) hlarge)
    have hlog : 53 + quantumExponent ≤ q.log2 := by
      rw [Nat.le_log2 hne, Nat.pow_add, show 2 ^ quantumExponent = unit from rfl]
      exact hlarge
    have hdvd : unit ∣ q :=
      Nat.dvd_trans (Nat.pow_dvd_pow 2 (show quantumExponent ≤ q.log2 - 52 by omega)) hq.2
    have hn : n * unit = q := by
      generalize unit = u at h hdvd hunit
      obtain ⟨m, rfl⟩ := hdvd
      have hup : (u * m + u - 1) / u = m := by
        rw [Nat.add_sub_assoc hunit, Nat.mul_add_div hunit, Nat.div_eq_of_lt (by omega),
          Nat.add_zero]
      rcases h with rfl | rfl
      · rw [Nat.mul_div_cancel_left m hunit, Nat.mul_comm]
      · rw [hup, Nat.mul_comm]
    rwa [hn]

theorem nearest_true_of_representable {quanta : Nat} (h : Representable quanta) :
    nearest true quanta 1 = finite true quanta h := by
  rw [nearest_true, nearest_of_representable h]
  rfl

theorem floor_finite_false {q : Nat} (hq : Representable q) :
    (finite false q hq).floor = nearest false (q / unit * unit) 1 := rfl

theorem floor_finite_true {q : Nat} (hq : Representable q) :
    (finite true q hq).floor = nearest true ((q + unit - 1) / unit * unit) 1 := rfl

/-- The fraction of a finite number is cut off without any rounding. -/
theorem exists_floor (negative : Bool) {q : Nat} (hq : Representable q) :
    ∃ n hn, (finite negative q hq).floor = finite negative (n * unit) hn ∧
      signed negative n = signed negative q / (unit : Int) := by
  cases negative with
  | false =>
    have hn : Representable (q / unit * unit) := hq.of_next (.inl rfl)
    refine ⟨q / unit, hn, ?_, ?_⟩
    · rw [floor_finite_false, nearest_of_representable hn]
    · rw [signed_false, signed_false, Int.natCast_ediv]
  | true =>
    have hn : Representable ((q + unit - 1) / unit * unit) := hq.of_next (.inr rfl)
    refine ⟨(q + unit - 1) / unit, hn, ?_, ?_⟩
    · rw [floor_finite_true, nearest_true_of_representable hn]
    · rw [signed_true, signed_true, neg_ceilDiv q unit_pos]

theorem floor_le_floor {x y : Binary64} (h : x ≤ y) : x.floor ≤ y.floor := by
  refine le_of_finite (f := floor) (fun _ => rfl) (fun x hx => ?_)
    (fun {a b p q} hp hq hle => ?_) h
  · cases x with
    | nan => cases hx
    | infinite a => rfl
    | finite a p hp =>
      obtain ⟨n, hn, hfloor, -⟩ := exists_floor a hp
      rw [hfloor]
      rfl
  · obtain ⟨m, hm, hxfloor, hxsigned⟩ := exists_floor a hp
    obtain ⟨n, hn, hyfloor, hysigned⟩ := exists_floor b hq
    have hsigned : signed a m ≤ signed b n := by
      rw [hxsigned, hysigned]
      exact Int.ediv_le_ediv (Int.ofNat_lt.mpr unit_pos) hle
    rw [hxfloor, hyfloor, finite_le_finite]
    exact signed_le_signed (Nat.mul_le_mul_right unit) (Nat.zero_mul unit) hsigned

/-- When a positive amount is added to a number that is not below zero, and the fraction is cut off,
then a natural number is left. -/
theorem exists_floor_add {x : Binary64} {r : Nat} (hr : Representable r) (hpos : 0 < r)
    (h : 0 ≤ x) :
    (x + finite false r hr).floor = infinite false ∨
      ∃ n hn, (x + finite false r hr).floor = finite false (n * unit) hn := by
  cases x with
  | nan => cases (isNaN_of_le h).2
  | infinite a =>
    cases a with
    | false => exact .inl rfl
    | true => cases zero_eq.symm.trans (eq_of_le_infinite_true h)
  | finite a p hp =>
    obtain ⟨q, hsum⟩ := eq_nearest_add hr hpos rfl h
    rw [hsum]
    by_cases hq : nearestQuanta q 1 < overflow
    · obtain ⟨n, hn, hfloor, -⟩ := exists_floor false ⟨hq, spacing_dvd_nearestQuanta q 1⟩
      rw [nearest, dif_pos hq]
      exact .inr ⟨n, hn, hfloor⟩
    · rw [nearest, dif_neg hq]
      exact .inl rfl

theorem whole_le_ofNat_iff {n m : Nat} (hn : Representable (n * unit)) (hm : m ≤ 2 ^ 53) :
    finite false (n * unit) hn ≤ ofNat m ↔ n ≤ m := by
  obtain ⟨hm', heq⟩ := ofNat_eq_finite hm
  rw [heq, le_finite_iff]
  exact Nat.mul_le_mul_right_iff unit_pos

theorem ofNat_le_whole_iff {n m : Nat} (hn : Representable (n * unit)) (hm : m ≤ 2 ^ 53) :
    ofNat m ≤ finite false (n * unit) hn ↔ m ≤ n := by
  obtain ⟨hm', heq⟩ := ofNat_eq_finite hm
  rw [heq, le_finite_iff]
  exact Nat.mul_le_mul_right_iff unit_pos

/-! ### Neighbours and ends -/

/-- The next number above a positive number; other numbers are left as they are. -/
def above : Binary64 → Binary64
  | .finite false quanta _ => nearest false (quanta + spacing quanta) 1
  | x => x

theorem above_finite_false {p : Nat} (hp : Representable p) :
    (finite false p hp).above = nearest false (p + spacing p) 1 := rfl

/-- Nothing lies between a number and the next one above it. -/
theorem above_le {a x : Binary64} (h : a < x) : a.above ≤ x := by
  cases a with
  | nan => exact le_of_lt h
  | infinite b => exact le_of_lt h
  | finite b p hp =>
    cases b with
    | true => exact le_of_lt h
    | false =>
      have hx := (isNaN_of_le (le_of_lt h)).2
      rw [above_finite_false]
      cases x with
      | nan => cases hx
      | infinite b =>
        cases b with
        | false => exact le_infinite_false (isNaN_nearest _ _ _)
        | true => cases eq_of_le_infinite_true (le_of_lt h)
      | finite b q hq =>
        obtain ⟨w, z, hw, hz, hlt⟩ := lt_iff.mp h
        have hw : signed false p = w := Option.some.inj hw
        have hz : signed b q = z := Option.some.inj hz
        cases b with
        | true =>
          rw [signed_true] at hz
          rw [signed_false] at hw
          omega
        | false =>
          rw [signed_false] at hw hz
          have hpq : p < q := by omega
          have hdvd : spacing p ∣ q :=
            Nat.dvd_trans (spacing_dvd_spacing (Nat.le_of_lt hpq)) hq.2
          have hnext : p + spacing p ≤ q :=
            Nat.le_of_lt_add_of_dvd (Nat.add_lt_add_right hpq _)
              (Nat.dvd_add hp.2 (Nat.dvd_refl _)) hdvd
          rw [← nearest_of_representable hq]
          exact nearest_mono Nat.one_pos hnext

/-- The largest finite number. -/
def largest : Binary64 := nearest false (overflow - 2 ^ 2045) 1

theorem isFinite_zero : (0 : Binary64).isFinite = true := by
  rw [zero_eq]
  rfl

theorem isNaN_of_isFinite {x : Binary64} (h : x.isFinite = true) : x.isNaN = false := by
  cases x with
  | finite => rfl
  | _ => cases h

theorem le_largest {x : Binary64} (h : x.isFinite = true) : x ≤ largest := by
  have hlargest : largest.isNaN = false := isNaN_nearest _ _ _
  have habove : largest.above = infinite false := by decide +kernel
  refine (le_or_lt (isNaN_of_isFinite h) hlargest).resolve_right fun hlt => ?_
  have hle := above_le hlt
  rw [habove] at hle
  rw [eq_of_infinite_false_le hle] at h
  cases h

end RoutineTiming.Binary64
