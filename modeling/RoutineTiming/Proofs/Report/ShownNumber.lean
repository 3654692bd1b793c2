import Mathlib
import RoutineTiming.Proofs.Report.Magnitude

/-!
# Numbers as they are shown

A number that is shown with the letter of a unit can be read again. What is read off a greater
number is no smaller, also where the two are shown in different units: a unit shows at most a
thousand, and the next greater one at least one.

## Main definitions

* `ShownNumber` : how many units are shown, and of which unit.
* `ShownNumber.value` : what this amounts to.
* `readShown?` : the number that a text shows.

## Main results

* `readShown?_humanMagnitude` : what is read off a finite number.
* `humanMagnitude_mono` : greater numbers are shown as greater ones.
-/

namespace RoutineTiming

/-! ### Reading -/

/-- A number as it is shown: how many units, or minus infinity, and of which unit. -/
structure ShownNumber where
  units : WithBot ℤ
  magnitude : Magnitude
  deriving DecidableEq

/-- What a shown number amounts to. -/
def ShownNumber.value (shown : ShownNumber) : WithBot ℚ :=
  shown.units.map fun n : ℤ => (n : ℚ) * 10 ^ shown.magnitude.exponent

/-- The unit of a letter; any other character stands for none. -/
def Magnitude.ofLetter : Char → Magnitude
  | 'u' => .micro
  | 'm' => .milli
  | 'k' => .kilo
  | 'M' => .mega
  | _ => .one

theorem Magnitude.ofLetter_of_isDigit {c : Char} (h : c.isDigit = true) : ofLetter c = .one := by
  unfold ofLetter
  split <;> first | rfl | exact absurd h (by decide)

/-- The integer that digits denote behind an optional minus sign, or minus infinity. -/
def readUnits? (text : List Char) : Option (WithBot ℤ) :=
  if text = ['-', 'i', 'n', 'f'] then
    some ⊥
  else
    let negative := text.head? = some '-'
    let digits := if negative then text.tail else text
    if digits ≠ [] ∧ digits.all Char.isDigit then
      some ((Binary64.signed negative (digitsValue 0 digits) : ℤ) : WithBot ℤ)
    else
      none

/-- The number that a text shows: an integer and at most one letter behind it. -/
def readShown? (text : String) : Option ShownNumber :=
  let magnitude := text.toList.getLast?.elim .one Magnitude.ofLetter
  let body := if magnitude = .one then text.toList else text.toList.dropLast
  (readUnits? body).map fun units => ⟨units, magnitude⟩

example : readShown? "-infu" = some ⟨⊥, .micro⟩ := by decide

/-- Digits are read as the integer that they denote. -/
theorem readUnits?_withSign (negative : Bool) (n : Nat) :
    readUnits? (Binary64.withSign negative (digitsOf n)).toList =
      some ((Binary64.signed negative n : ℤ) : WithBot ℤ) := by
  have hne := digitsOf_ne_nil n
  have hall : (digitsOf n).all Char.isDigit = true :=
    List.all_eq_true.mpr fun c hc => isDigit_of_mem_digitsOf hc
  cases negative with
  | false =>
    have hhead : (digitsOf n).head? ≠ some '-' := fun h =>
      absurd (isDigit_of_mem_digitsOf (List.mem_of_head? h)) (by decide)
    have hname : digitsOf n ≠ ['-', 'i', 'n', 'f'] := fun h => hhead (by rw [h]; rfl)
    rw [Binary64.withSign, String.toList_ofList, if_neg Bool.false_ne_true, readUnits?,
      if_neg hname]
    simp only [hhead, decide_false, if_false, hne, hall, ne_eq, not_false_eq_true, and_self,
      if_true, digitsValue_digitsOf]
  | true =>
    have hname : '-' :: digitsOf n ≠ ['-', 'i', 'n', 'f'] := fun h => by
      have hdigits : digitsOf n = ['i', 'n', 'f'] := (List.cons.inj h).2
      rw [hdigits] at hall
      exact absurd hall (by decide)
    rw [Binary64.withSign, String.toList_ofList, if_pos rfl, readUnits?, if_neg hname]
    simp only [List.head?_cons, decide_true, if_true, List.tail_cons, hne, hall, ne_eq,
      not_false_eq_true, and_self, digitsValue_digitsOf]

theorem readShown?_append {body : String} {units : WithBot ℤ} (magnitude : Magnitude)
    (hbody : ∀ c ∈ body.toList, Magnitude.ofLetter c = .one)
    (hunits : readUnits? body.toList = some units) :
    readShown? (body ++ magnitude.letter) = some ⟨units, magnitude⟩ := by
  have hletter {c : Char} (hc : magnitude.letter.toList = [c])
      (hmagnitude : Magnitude.ofLetter c = magnitude) (hne : magnitude ≠ .one) :
      readShown? (body ++ magnitude.letter) = some ⟨units, magnitude⟩ := by
    rw [readShown?, String.toList_append, hc, List.getLast?_concat, Option.elim_some, hmagnitude,
      List.dropLast_concat]
    simp only [hne, if_false, hunits, Option.map_some]
  cases magnitude with
  | one =>
    have hlast : body.toList.getLast?.elim .one Magnitude.ofLetter = .one := by
      cases h : body.toList.getLast? with
      | none => rfl
      | some c => exact hbody c (List.mem_of_getLast? h)
    have htext : (body ++ Magnitude.one.letter).toList = body.toList := by
      rw [String.toList_append]
      exact List.append_nil _
    rw [readShown?, htext, hlast]
    simp only [if_true, hunits, Option.map_some]
  | _ => exact hletter rfl rfl (by decide)

/-! ### What is read off a number -/

namespace Binary64

/-- The integer that a number without a fraction is, minus infinity for the infinity below all
numbers. -/
def units : Binary64 → WithBot ℤ
  | .finite negative quanta _ => ((signed negative quanta / (unit : ℤ) : ℤ) : WithBot ℤ)
  | _ => ⊥

theorem signed_mul_ediv (negative : Bool) (n : Nat) {u : Nat} (hu : 0 < u) :
    signed negative (n * u) / (u : ℤ) = signed negative n := by
  have hne : (u : ℤ) ≠ 0 := Int.natCast_ne_zero.mpr (Nat.ne_of_gt hu)
  have hmul : signed negative (n * u) = signed negative n * (u : ℤ) := by
    cases negative <;> simp
  rw [hmul, Int.mul_ediv_cancel _ hne]

theorem units_whole (negative : Bool) {n : Nat} (hn : Representable (n * unit)) :
    (finite negative (n * unit) hn).units = ((signed negative n : ℤ) : WithBot ℤ) :=
  congrArg WithBot.some (signed_mul_ediv negative n unit_pos)

theorem units_le_units {x y : Binary64} (h : x ≤ y) (hy : y ≠ infinite false) :
    x.units ≤ y.units := by
  cases x with
  | finite a p hp =>
    cases y with
    | finite b q hq =>
      exact WithBot.coe_le_coe.mpr
        (Int.ediv_le_ediv (Int.ofNat_lt.mpr unit_pos) (finite_le_finite.mp h))
    | infinite b =>
      cases b with
      | false => exact absurd rfl hy
      | true => cases eq_of_le_infinite_true h
    | nan => cases (isNaN_of_le h).2
  | _ => exact bot_le

theorem units_ofNat {n : Nat} (h : n ≤ 2 ^ 53) : (ofNat n).units = ((n : ℤ) : WithBot ℤ) := by
  obtain ⟨hn, heq⟩ := ofNat_eq_finite h
  rw [heq, units_whole, signed_false]

theorem units_le_of_le_ofNat {x : Binary64} {n : Nat} (hn : n ≤ 2 ^ 53) (h : x ≤ ofNat n) :
    x.units ≤ ((n : ℤ) : WithBot ℤ) := by
  obtain ⟨hn', heq⟩ := ofNat_eq_finite hn
  have hfinite : ofNat n ≠ infinite false := by
    rw [heq]
    nofun
  rw [← units_ofNat hn]
  exact units_le_units h hfinite

theorem le_units_of_ofNat_le {y : Binary64} {n : Nat} (hn : n ≤ 2 ^ 53) (h : ofNat n ≤ y)
    (hy : y ≠ infinite false) : ((n : ℤ) : WithBot ℤ) ≤ y.units := by
  rw [← units_ofNat hn]
  exact units_le_units h hy

end Binary64

/-- What is read off a finite number: its whole units, and the unit that suits it. -/
theorem readShown?_humanMagnitude {x : Binary64} (h : x.isFinite = true) :
    readShown? (humanMagnitude x) = some ⟨(wholeUnits x).units, Magnitude.of x⟩ := by
  have hcharacters : ∀ c ∈ ((wholeUnits x).toFixed 0).toList, Magnitude.ofLetter c = .one := by
    intro c hc
    rcases Binary64.mem_toFixed hc with hdigit | hother
    · exact Magnitude.ofLetter_of_isDigit hdigit
    · have hnone :
          ['.', '-', 'i', 'n', 'f', 'N', 'a'].all (Magnitude.ofLetter · = .one) = true := by
        decide
      exact of_decide_eq_true (List.all_eq_true.mp hnone c hother)
  refine readShown?_append _ hcharacters ?_
  rcases wholeUnits_cases h with heq | ⟨negative, n, hn, heq⟩
  · rw [heq]
    rfl
  · rw [heq, Binary64.toFixed_whole, readUnits?_withSign, Binary64.units_whole]

/-! ### Comparison -/

namespace ShownNumber

/-- More units of one kind amount to more. -/
theorem value_le_value {a b : WithBot ℤ} (magnitude : Magnitude) (h : a ≤ b) :
    value ⟨a, magnitude⟩ ≤ value ⟨b, magnitude⟩ := by
  have hmono : Monotone fun n : ℤ => (n : ℚ) * 10 ^ magnitude.exponent := fun m n hle =>
    mul_le_mul_of_nonneg_right (Int.cast_le.mpr hle) (zpow_nonneg (by norm_num) _)
  exact hmono.withBot_map h

/-- A thousand of a unit are no more than one of a greater unit. -/
theorem value_thousand_le {u v : Magnitude} (h : u.exponent < v.exponent) :
    value ⟨((1000 : ℤ) : WithBot ℤ), u⟩ ≤ value ⟨((1 : ℤ) : WithBot ℤ), v⟩ := by
  have hexponent : 3 + u.exponent ≤ v.exponent := by
    revert h
    cases u <;> cases v <;> decide
  have hthousand : (10 : ℚ) ^ (3 : ℤ) = (1000 : ℤ) := rfl
  refine WithBot.coe_le_coe.mpr ?_
  calc ((1000 : ℤ) : ℚ) * 10 ^ u.exponent
      = 10 ^ (3 + u.exponent) := by rw [zpow_add₀ (by norm_num), hthousand]
    _ ≤ 10 ^ v.exponent := zpow_le_zpow_right₀ (by norm_num) hexponent
    _ = ((1 : ℤ) : ℚ) * 10 ^ v.exponent := by rw [Int.cast_one, one_mul]

end ShownNumber

/-- **Greater numbers are shown as greater ones.** What is read off the text of a finite number is
at most what is read off the text of a greater one, and its unit is no greater; in this order the
minus infinity that is shown when the scaling of a number overflows comes first. -/
theorem humanMagnitude_mono {x y : Binary64} (hx : x.isFinite = true) (hy : y.isFinite = true)
    (h : x ≤ y) :
    ∃ shown shown', readShown? (humanMagnitude x) = some shown ∧
      readShown? (humanMagnitude y) = some shown' ∧ shown.value ≤ shown'.value ∧
      shown.magnitude.exponent ≤ shown'.magnitude.exponent := by
  have hexponent := Magnitude.exponent_le_exponent h
  refine ⟨_, _, readShown?_humanMagnitude hx, readShown?_humanMagnitude hy, ?_, hexponent⟩
  have hbounded := wholeUnits_ne_infinite hy
  rcases hexponent.eq_or_lt with heq | hlt
  · have hunit : Magnitude.of x = Magnitude.of y := Magnitude.exponent_injective heq
    have hle : wholeUnits x ≤ wholeUnits y := by
      rw [Magnitude.wholeUnits_eq, hunit]
      exact Magnitude.unitsIn_le_unitsIn _ hx hy h
    rw [hunit]
    exact ShownNumber.value_le_value _ (Binary64.units_le_units hle hbounded)
  · have hmega := Magnitude.ne_mega_of_lt hlt
    have hmicro := Magnitude.ne_micro_of_lt hlt
    have hthousand : (wholeUnits x).units ≤ ((1000 : ℤ) : WithBot ℤ) :=
      Binary64.units_le_of_le_ofNat (by decide) (wholeUnits_le_thousand hx hmega)
    have hone : ((1 : ℤ) : WithBot ℤ) ≤ (wholeUnits y).units :=
      Binary64.le_units_of_ofNat_le (by decide) (one_le_wholeUnits hy hmicro) hbounded
    exact (ShownNumber.value_le_value _ hthousand).trans
      ((ShownNumber.value_thousand_le hlt).trans (ShownNumber.value_le_value _ hone))

/-- A number whose scaling overflows, and one that is shown as a thousand. -/
theorem humanMagnitude_mono_overflow :
    (-1e305 : Binary64).isFinite = true ∧ (999.9999999999999 : Binary64).isFinite = true ∧
      (-1e305 : Binary64) ≤ 999.9999999999999 ∧ humanMagnitude (-1e305) = "-infu" ∧
      humanMagnitude 999.9999999999999 = "1000" ∧
      ∃ shown shown', readShown? (humanMagnitude (-1e305)) = some shown ∧
        readShown? (humanMagnitude 999.9999999999999) = some shown' ∧
        shown.value ≤ shown'.value ∧
        shown.magnitude.exponent ≤ shown'.magnitude.exponent := by
  have hx : (-1e305 : Binary64).isFinite = true := by decide +kernel
  have hy : (999.9999999999999 : Binary64).isFinite = true := by decide +kernel
  have hle : (-1e305 : Binary64) ≤ 999.9999999999999 := by decide +kernel
  exact ⟨hx, hy, hle, by decide +kernel, by decide +kernel, humanMagnitude_mono hx hy hle⟩

end RoutineTiming
