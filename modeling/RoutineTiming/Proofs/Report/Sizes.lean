import RoutineTiming.Proofs.Binary64.Quotient
import RoutineTiming.Proofs.Report.Magnitude

/-!
# Sizes in words

The sizes of a table are natural numbers, and they are shown with their exact numbers of thousands
or millions, although the quotients are rounded and a billionth is added to them.

## Main results

* `Magnitude.unitsIn_ofNat` : the whole units of a natural number.
* `humanMagnitude_ofNat` : natural numbers below `2 ^ 53` are shown exactly.
-/

namespace RoutineTiming

namespace Magnitude

section Size

variable {size : Nat}

/-- The unit of a natural number. -/
theorem of_ofNat (hpos : 1 ≤ size) (h : size ≤ 2 ^ 53) :
    of (Binary64.ofNat size) =
      if size < 1000 then .one else if size < 10 ^ 6 then .kilo else .mega := by
  have hone : 1 ≤ Binary64.ofNat size := Binary64.one_le_ofNat hpos
  have hmilli : (1e-3 : Binary64) ≤ Binary64.ofNat size :=
    Binary64.le_trans (least_le_least (u := .milli) (v := .one) (by decide)) hone
  have hle {n : Nat} (hn : n ≤ 2 ^ 53) : Binary64.ofNat n ≤ Binary64.ofNat size ↔ n ≤ size := by
    obtain ⟨hsize, heq⟩ := Binary64.ofNat_eq_finite h
    rw [heq, Binary64.ofNat_le_whole_iff hsize hn]
  have hthousand : (1e3 : Binary64) ≤ Binary64.ofNat size ↔ 1000 ≤ size := by
    rw [thousand_eq, hle (by decide)]
  have hmillion : (1e6 : Binary64) ≤ Binary64.ofNat size ↔ 1000000 ≤ size := by
    rw [Binary64.million_eq, hle (by decide)]
  rw [of, if_neg fun hlt => Binary64.not_le_of_lt hlt hmilli,
    if_neg fun hlt => Binary64.not_le_of_lt hlt hone]
  simp only [hthousand, hmillion]
  rcases Nat.lt_or_ge size 1000 with hsmall | hlarge
  · rw [if_neg (by omega), if_neg (by omega), if_pos hsmall]
  · rcases Nat.lt_or_ge size 1000000 with hmiddle | hlarge'
    · rw [if_neg (by omega), if_pos hlarge, if_neg (by omega), if_pos hmiddle]
    · rw [if_pos hlarge', if_neg (by omega), if_neg (by omega)]

/-- A natural number that is scaled to a unit of at least one. -/
theorem isQuotient_scale (magnitude : Magnitude) (hunit : 0 ≤ magnitude.exponent)
    (h : size < 2 ^ 53) :
    Binary64.IsQuotient size (10 ^ magnitude.exponent.toNat)
      (scale (Binary64.ofNat size) magnitude) := by
  cases magnitude with
  | micro | milli => exact absurd hunit (by decide)
  | one => exact Binary64.isQuotient_ofNat (Nat.le_of_lt h)
  | kilo =>
    rw [scale, thousand_eq]
    exact Binary64.isQuotient_div h (by decide) (by decide)
  | mega =>
    rw [scale, Binary64.million_eq]
    exact Binary64.isQuotient_div h (by decide) (by decide)

/-- The whole units of a natural number in a unit of at least one are those of its exact
quotient. -/
theorem unitsIn_ofNat (magnitude : Magnitude) (hunit : 0 ≤ magnitude.exponent)
    (h : size < 2 ^ 53) :
    magnitude.unitsIn (Binary64.ofNat size) =
      Binary64.ofNat (size / 10 ^ magnitude.exponent.toNat) := by
  obtain ⟨c, hc, hbillionth, -, hsmall⟩ := exists_billionth
  have hdivisor : 10 ^ magnitude.exponent.toNat ≤ 2 ^ 20 := by
    cases magnitude <;> decide
  rw [unitsIn, hbillionth]
  exact (isQuotient_scale magnitude hunit h).floor_add h hdivisor hc hsmall

end Size

end Magnitude

/-- A natural number that is not too large is shown with its digits. -/
theorem toFixed_ofNat {n : Nat} (h : n ≤ 2 ^ 53) : (Binary64.ofNat n).toFixed 0 = numeral n := by
  obtain ⟨hn, heq⟩ := Binary64.ofNat_eq_finite h
  rw [heq, Binary64.toFixed_whole]
  rfl

/-- **Sizes are shown exactly.** A natural number below `2 ^ 53` is shown with its digits below a
thousand, else with the digits of its exact number of thousands or millions: neither the rounding of
the quotient nor the billionth that is added leads to the next number. -/
theorem humanMagnitude_ofNat {size : Nat} (hpos : 1 ≤ size) (h : size < 2 ^ 53) :
    humanMagnitude (Binary64.ofNat size) =
      if size < 1000 then numeral size
      else if size < 10 ^ 6 then numeral (size / 1000) ++ "k"
      else numeral (size / 10 ^ 6) ++ "M" := by
  have hshown (magnitude : Magnitude) (hunit : 0 ≤ magnitude.exponent)
      (hof : Magnitude.of (Binary64.ofNat size) = magnitude) :
      humanMagnitude (Binary64.ofNat size) =
        numeral (size / 10 ^ magnitude.exponent.toNat) ++ magnitude.letter := by
    have hquotient : size / 10 ^ magnitude.exponent.toNat ≤ 2 ^ 53 :=
      Nat.le_trans (Nat.div_le_self _ _) (Nat.le_of_lt h)
    rw [humanMagnitude, Magnitude.wholeUnits_eq, hof, Magnitude.unitsIn_ofNat magnitude hunit h,
      toFixed_ofNat hquotient]
  have hunit := Magnitude.of_ofNat hpos (Nat.le_of_lt h)
  split
  · next hsmall =>
    rw [hshown .one (by decide) (by rw [hunit, if_pos hsmall])]
    change numeral (size / 1) ++ "" = numeral size
    rw [Nat.div_one, String.append_empty]
  · next hlarge =>
    rw [if_neg hlarge] at hunit
    split
    · next hmiddle =>
      rw [hshown .kilo (by decide) (by rw [hunit, if_pos hmiddle])]
      rfl
    · next hlarge =>
      rw [hshown .mega (by decide) (by rw [hunit, if_neg hlarge])]
      rfl

/-- A size next to the limit, so close below a whole number of millions that its quotient is rounded
by almost as much as it is away from it. -/
theorem humanMagnitude_ofNat_nine_billion :
    1 ≤ 9007199253999999 ∧ 9007199253999999 < 2 ^ 53 ∧
      humanMagnitude (Binary64.ofNat 9007199253999999) = "9007199253M" := by
  refine ⟨by decide, by decide, ?_⟩
  rw [humanMagnitude_ofNat (by decide) (by decide), if_neg (by decide), if_neg (by decide)]
  decide

end RoutineTiming
