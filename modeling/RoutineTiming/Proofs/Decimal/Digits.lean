import Mathlib.Data.List.TakeWhile
import RoutineTiming.Decimal.Shortest

/-!
# Digits of natural numbers

The digits of a natural number denote it. Zeros in front do not count, and each zero at the end is a
factor of ten.

## Main results

* `digitsValue_digitsOf` : digits denote their number.
* `digitsOf_mul_pow` : the digits of a number that is multiplied by a power of ten.
* `Decimal.exists_strip` : zeros that are taken off the end of a significand.
-/

namespace RoutineTiming

/-! ### Values -/

theorem digitsValue_digitsOf (n : Nat) : digitsValue 0 (digitsOf n) = n :=
  Nat.ofDigitChars_ten_toDigits

theorem digitsValue_append (start : Nat) (xs ys : List Char) :
    digitsValue start (xs ++ ys) = digitsValue (digitsValue start xs) ys :=
  List.foldl_append

theorem digitsValue_replicate_zero (start count : Nat) :
    digitsValue start (List.replicate count '0') = start * 10 ^ count := by
  induction count generalizing start with
  | zero => rw [Nat.pow_zero, Nat.mul_one]; rfl
  | succ count ih =>
    have hstep : digitsValue start (List.replicate (count + 1) '0') =
        digitsValue (10 * start) (List.replicate count '0') := rfl
    rw [hstep, ih, Nat.pow_succ']
    ac_rfl

/-- Each zero at the end is a factor of ten. -/
theorem digitsValue_append_zeros (digits : List Char) (count : Nat) :
    digitsValue 0 (digits ++ List.replicate count '0') = digitsValue 0 digits * 10 ^ count := by
  rw [digitsValue_append, digitsValue_replicate_zero]

/-- Zeros in front do not count. -/
theorem digitsValue_zeros_append (count : Nat) (digits : List Char) :
    digitsValue 0 (List.replicate count '0' ++ digits) = digitsValue 0 digits := by
  rw [digitsValue_append, digitsValue_replicate_zero, Nat.zero_mul]

/-! ### Digits -/

theorem digitsOf_ne_nil (n : Nat) : digitsOf n ≠ [] := Nat.toDigits_ne_nil

theorem isDigit_of_mem_digitsOf {n : Nat} {c : Char} (h : c ∈ digitsOf n) : c.isDigit = true :=
  Nat.isDigit_of_mem_toDigits (by decide) (Nat.le_refl 10) h

theorem isDigit_of_mem_zeros {count : Nat} {c : Char} (h : c ∈ List.replicate count '0') :
    c.isDigit = true :=
  List.eq_of_mem_replicate h ▸ by decide

theorem digitsOf_mul_pow {n : Nat} (h : n ≠ 0) (count : Nat) :
    digitsOf (n * 10 ^ count) = digitsOf n ++ List.replicate count '0' := by
  induction count with
  | zero => rw [Nat.pow_zero, Nat.mul_one, List.replicate_zero, List.append_nil]
  | succ count ih =>
    have hpos : 0 < n * 10 ^ count :=
      Nat.mul_pos (Nat.pos_of_ne_zero h) (Nat.pow_pos (by decide))
    have hnext := Nat.toDigits_append_toDigits (b := 10) (d := 0) (by decide) hpos (by decide)
    rw [List.replicate_succ', ← List.append_assoc, ← ih, Nat.pow_succ, ← Nat.mul_assoc,
      Nat.mul_comm]
    exact hnext.symm

theorem length_digitsOf_le_iff {n count : Nat} (h : 0 < count) :
    (digitsOf n).length ≤ count ↔ n < 10 ^ count :=
  Nat.length_toDigits_le_iff (by decide) h

/-- The digits of a number other than zero begin with another digit than zero. -/
theorem exists_digitsOf {n : Nat} (h : n ≠ 0) :
    ∃ lead rest, digitsOf n = lead :: rest ∧ lead ≠ '0' := by
  induction n using Nat.strongRecOn with
  | ind n ih =>
    rcases Nat.lt_or_ge n 10 with hlt | hge
    · refine ⟨Nat.digitChar n, [], Nat.toDigits_of_lt_base hlt, fun hzero => h ?_⟩
      have := Nat.toNat_digitChar_of_lt_ten hlt
      rw [hzero] at this
      exact (Nat.add_left_cancel this).symm
    · obtain ⟨lead, rest, hdigits, hlead⟩ := ih (n / 10) (by omega) (by omega)
      refine ⟨lead, rest ++ [Nat.digitChar (n % 10)], ?_, hlead⟩
      rw [digitsOf, Nat.toDigits_of_base_le (by decide) hge]
      exact congrArg (· ++ _) hdigits

/-! ### Significands -/

theorem takeWhile_eq_replicate (c : Char) (cs : List Char) :
    cs.takeWhile (· = c) = List.replicate (cs.takeWhile (· = c)).length c := by
  refine List.eq_replicate_iff.mpr ⟨rfl, fun x hx => ?_⟩
  have hc := List.mem_takeWhile_imp hx
  exact of_decide_eq_true hc

/-- The zeros at the end of digits, which are found from the back. -/
theorem dropWhile_reverse_append_zeros (digits : List Char) :
    (digits.reverse.dropWhile (· = '0')).reverse ++
      List.replicate (digits.reverse.takeWhile (· = '0')).length '0' = digits := by
  rw [← List.reverse_replicate, ← takeWhile_eq_replicate, ← List.reverse_append,
    List.takeWhile_append_dropWhile, List.reverse_reverse]

/-- A decimal whose significand is not zero has the zeros at its end taken off. -/
theorem Decimal.exists_strip {d : Decimal} (h : d.significand ≠ 0) :
    ∃ zeros : Nat, d.significand = d.strip.significand * 10 ^ zeros ∧
      d.exponent = d.strip.exponent - zeros := by
  refine ⟨((digitsOf d.significand).reverse.takeWhile (· = '0')).length, ?_, ?_⟩
  · have hvalue := digitsValue_digitsOf d.significand
    rw [← dropWhile_reverse_append_zeros (digitsOf d.significand),
      digitsValue_append_zeros] at hvalue
    rw [strip, if_neg h]
    exact (Nat.div_mul_cancel ⟨_, hvalue.symm.trans (Nat.mul_comm _ _)⟩).symm
  · rw [strip, if_neg h]
    exact (Int.add_sub_cancel _ _).symm

/-- A zero has no exponent once the zeros at its end are taken off. -/
theorem Decimal.exponent_strip {d : Decimal} (h : d.strip.significand = 0) :
    d.strip.exponent = 0 := by
  by_cases hzero : d.significand = 0
  · rw [strip, if_pos hzero]
  · obtain ⟨zeros, hsignificand, -⟩ := exists_strip hzero
    rw [h, Nat.zero_mul] at hsignificand
    exact absurd hsignificand hzero

end RoutineTiming
