import RoutineTiming.Rounding

/-!
# Binary64 numbers

The numbers of the 64-bit binary floating-point format, as exact values. Every finite number of
the format is a sign and a whole number of *quanta*, a quantum being `2⁻¹⁰⁷⁴`, the least positive
number; a number of quanta is representable when it has at most 53 significant bits and lies below
`2¹⁰²⁴`. One not-a-number value stands for all of them.

* Every operation computes an exact ratio of quanta and rounds it once with `Binary64.nearest`.
* The two zeros are different values of the type and equal in the order.

## Main definitions

* `Binary64` : the numbers.
* `Binary64.nearest` : the number nearest to a ratio of quanta, halves to the even one.
* `Binary64.ofBits`, `Binary64.toBits` : the interchange encoding.
* `Binary64.position` : the place of a number in the order, which is the order of these integers.

## Main results

* `Binary64.spacing_dvd_nearestQuanta` : rounding delivers a multiple of its own spacing.
-/

namespace RoutineTiming

namespace Binary64

/-- The spacing of the numbers around `quanta`: the power of two that leaves 53 significant
bits. -/
def spacing (quanta : Nat) : Nat := 2 ^ (quanta.log2 - 52)

/-- A quantum is `2 ^ -quantumExponent`. -/
def quantumExponent : Nat := 1074

/-- The number of quanta in one. -/
def unit : Nat := 2 ^ quantumExponent

/-- The number of quanta in `2¹⁰²⁴`, below which every finite number lies. -/
def overflow : Nat := 2 ^ (quantumExponent + 1024)

/-- A number of quanta with at most 53 significant bits, below `2¹⁰²⁴`. -/
def Representable (quanta : Nat) : Prop := quanta < overflow ∧ spacing quanta ∣ quanta

instance (quanta : Nat) : Decidable (Representable quanta) :=
  inferInstanceAs (Decidable (_ ∧ _))

theorem unit_pos : 0 < unit := Nat.two_pow_pos _

theorem overflow_pos : 0 < overflow := Nat.two_pow_pos _

theorem representable_zero : Representable 0 :=
  ⟨overflow_pos, Nat.dvd_zero _⟩

/-- A multiple of `2 ^ e` by a factor of at most `2 ^ 53` is a multiple of its own spacing. -/
theorem spacing_dvd_mul_two_pow {k : Nat} (h : k ≤ 2 ^ 53) (e : Nat) :
    spacing (k * 2 ^ e) ∣ k * 2 ^ e := by
  unfold spacing
  rcases Nat.lt_or_eq_of_le h with h | rfl
  · refine Nat.dvd_trans (Nat.pow_dvd_pow 2 ?_) (Nat.dvd_mul_left _ _)
    rcases Nat.eq_zero_or_pos (k * 2 ^ e) with h0 | h0
    · simp [h0]
    · have : (k * 2 ^ e).log2 < 53 + e := by
        rw [Nat.log2_lt (Nat.ne_of_gt h0), Nat.pow_add]
        exact Nat.mul_lt_mul_of_pos_right h (Nat.two_pow_pos e)
      omega
  · rw [← Nat.pow_add, Nat.log2_two_pow]
    exact Nat.pow_dvd_pow 2 (by omega)

end Binary64

/-- A number of the 64-bit binary format. -/
inductive Binary64 where
  /-- Not a number. -/
  | nan
  /-- An infinity of the given sign. -/
  | infinite (negative : Bool)
  /-- The number `± quanta * 2⁻¹⁰⁷⁴`. -/
  | finite (negative : Bool) (quanta : Nat) (representable : Binary64.Representable quanta)
  deriving DecidableEq

namespace Binary64

instance : Inhabited Binary64 := ⟨.finite false 0 representable_zero⟩

/-- The zero of the given sign. -/
def zero (negative : Bool) : Binary64 := .finite negative 0 representable_zero

/-! ### Rounding -/

/-- The representable number of quanta nearest to `num / den`, halves to the even multiple of the
spacing; it ignores the upper limit of the format. -/
def nearestQuanta (num den : Nat) : Nat :=
  let step := spacing (num / den)
  roundHalfEven num (den * step) * step

theorem spacing_dvd_nearestQuanta (num den : Nat) :
    spacing (nearestQuanta num den) ∣ nearestQuanta num den := by
  refine spacing_dvd_mul_two_pow ?_ _
  rcases Nat.eq_zero_or_pos den with rfl | hden
  · simp only [spacing, Nat.zero_mul, roundHalfEven, Nat.div_zero]
    split <;> decide
  · apply roundHalfEven_le_of_lt_mul
    rw [spacing, Nat.mul_assoc, ← Nat.pow_add]
    have h : num / den < 2 ^ ((num / den).log2 + 1) := Nat.lt_log2_self
    rw [Nat.div_lt_iff_lt_mul hden, Nat.mul_comm] at h
    exact Nat.lt_of_lt_of_le h
      (Nat.mul_le_mul_left _ (Nat.pow_le_pow_right (by decide) (by omega)))

/-- The number nearest to `± num / den` quanta, halves to even; infinite from `2¹⁰²⁴` on. -/
def nearest (negative : Bool) (num den : Nat) : Binary64 :=
  let quanta := nearestQuanta num den
  if h : quanta < overflow then
    .finite negative quanta ⟨h, spacing_dvd_nearestQuanta num den⟩
  else
    .infinite negative

/-! ### The interchange encoding -/

/-- The number encoded by a 64-bit word: a sign bit, 11 bits of exponent, 52 of fraction. -/
def ofBits (word : UInt64) : Binary64 :=
  let negative := decide (2 ^ 63 ≤ word.toNat)
  let exponent := word.toNat / 2 ^ 52 % 2 ^ 11
  let fraction := word.toNat % 2 ^ 52
  if exponent = 2047 then
    if fraction = 0 then .infinite negative else .nan
  else if exponent = 0 then
    nearest negative fraction 1
  else
    nearest negative ((2 ^ 52 + fraction) * 2 ^ (exponent - 1)) 1

/-- The 64-bit word that encodes a number; not-a-number gets the quiet pattern without payload. -/
def toBits : Binary64 → UInt64
  | .nan => 0x7ff8000000000000
  | .infinite negative => signBit negative + 0x7ff0000000000000
  | .finite negative quanta _ =>
    if quanta < 2 ^ 52 then
      signBit negative + UInt64.ofNat quanta
    else
      let shift := quanta.log2 - 52
      signBit negative + UInt64.ofNat ((shift + 1) * 2 ^ 52 + (quanta / 2 ^ shift - 2 ^ 52))
where
  /-- The word that holds the sign alone. -/
  signBit (negative : Bool) : UInt64 := if negative then 0x8000000000000000 else 0

/-! ### Classification and order -/

/-- The number is not-a-number. -/
def isNaN : Binary64 → Bool
  | .nan => true
  | _ => false

/-- The number is neither infinite nor not-a-number. -/
def isFinite : Binary64 → Bool
  | .finite .. => true
  | _ => false

/-- A count with a sign. -/
def signed (negative : Bool) (n : Nat) : Int := if negative then -(n : Int) else n

/-- The place of a number in the order of the format; not-a-number has none. -/
def position : Binary64 → Option Int
  | .nan => none
  | .infinite negative => some (signed negative overflow)
  | .finite negative quanta _ => some (signed negative quanta)

/-- Both places exist and satisfy the relation. -/
def compareWith (relation : Int → Int → Bool) (x y : Binary64) : Bool :=
  match x.position, y.position with
  | some a, some b => relation a b
  | _, _ => false

instance : LT Binary64 := ⟨fun x y => compareWith (· < ·) x y = true⟩

instance : LE Binary64 := ⟨fun x y => compareWith (· ≤ ·) x y = true⟩

instance (x y : Binary64) : Decidable (x < y) :=
  inferInstanceAs (Decidable (compareWith _ x y = true))

instance (x y : Binary64) : Decidable (x ≤ y) :=
  inferInstanceAs (Decidable (compareWith _ x y = true))

theorem lt_iff {x y : Binary64} :
    x < y ↔ ∃ a b, x.position = some a ∧ y.position = some b ∧ a < b := by
  change compareWith _ x y = true ↔ _
  unfold compareWith
  split <;> simp_all

theorem le_iff {x y : Binary64} :
    x ≤ y ↔ ∃ a b, x.position = some a ∧ y.position = some b ∧ a ≤ b := by
  change compareWith _ x y = true ↔ _
  unfold compareWith
  split <;> simp_all

theorem position_eq_none_iff {x : Binary64} : x.position = none ↔ x = .nan := by
  cases x <;> simp [position]

/-- The smaller number; not-a-number gives way to the other one, and of two equal numbers the
first is taken. -/
def min (x y : Binary64) : Binary64 :=
  if y < x then y else if x.isNaN then y else x

/-- The larger number; not-a-number gives way to the other one, and of two equal numbers the
second is taken. -/
def max (x y : Binary64) : Binary64 :=
  if y < x then x else if y.isNaN then x else y

end Binary64

end RoutineTiming
