import RoutineTiming.Proofs.Decimal.Digits
import RoutineTiming.Proofs.Text.Trimmed
import RoutineTiming.RoutineOutput

/-!
# The time that a line denotes

A timing line denotes a number of microseconds: it is blank, which stands for zero, or it is a
numeral of no more than 64 bits with blanks around it. No other line has a time read off it.

## Main definitions

* `IsNumeral` : an optional plus sign and digits.
* `DenotesMicroseconds` : the line denotes a number of microseconds.

## Main results

* `readNumeral?_eq_some_iff` : numerals up to a limit.
* `readMicroseconds?_eq_some_iff` : the time that is read off a line.
-/

namespace RoutineTiming

/-! ### Numerals -/

/-- The text is an optional plus sign and one or more digits, which denote the number. Any number of
zeros may lead. -/
inductive IsNumeral : String → Nat → Prop
  | intro {sign : String} {digits : List Char} (hsign : sign = "" ∨ sign = "+") (hne : digits ≠ [])
      (hdigits : ∀ c ∈ digits, c.isDigit = true) :
      IsNumeral (sign ++ String.ofList digits) (digitsValue 0 digits)

theorem readNumeral?_append {sign : String} {digits : List Char} (limit : Nat)
    (hsign : sign = "" ∨ sign = "+") (hne : digits ≠ [])
    (hdigits : ∀ c ∈ digits, c.isDigit = true) :
    readNumeral? limit (sign ++ String.ofList digits) =
      if digitsValue 0 digits ≤ limit then some (digitsValue 0 digits) else none := by
  have hread : digits ≠ [] ∧ digits.all Char.isDigit = true := ⟨hne, List.all_eq_true.mpr hdigits⟩
  rw [readNumeral?, String.toList_append, String.toList_ofList]
  rcases hsign with rfl | rfl
  · split
    · next rest hplus =>
      have hplus : digits = '+' :: rest := hplus
      have hdigit := hdigits '+' (hplus ▸ List.mem_cons_self)
      cases hdigit
    · exact if_pos hread
  · exact if_pos hread

/-- Just the numerals up to the limit are read. -/
theorem readNumeral?_eq_some_iff {limit n : Nat} {text : String} :
    readNumeral? limit text = some n ↔ IsNumeral text n ∧ n ≤ limit := by
  constructor
  · intro h
    have hnumeral {sign : String} {digits : List Char} (hsign : sign = "" ∨ sign = "+")
        (htext : text = sign ++ String.ofList digits)
        (h : (if digits ≠ [] ∧ digits.all Char.isDigit = true then
          if digitsValue 0 digits ≤ limit then some (digitsValue 0 digits) else none
          else none) = some n) : IsNumeral text n ∧ n ≤ limit := by
      rw [Option.ite_none_right_eq_some, Option.ite_none_right_eq_some] at h
      obtain ⟨⟨hne, hdigits⟩, hle, hn⟩ := h
      rw [← Option.some.inj hn, htext]
      exact ⟨.intro hsign hne (List.all_eq_true.mp hdigits), hle⟩
    simp only [readNumeral?] at h
    split at h
    · next digits hplus =>
      refine hnumeral (.inr rfl) (String.toList_injective ?_) h
      rw [hplus, String.toList_append, String.toList_ofList (l := digits)]
      rfl
    · refine hnumeral (.inl rfl) ?_ h
      rw [String.empty_append, String.ofList_toList]
  · rintro ⟨⟨hsign, hne, hdigits⟩, hle⟩
    rw [readNumeral?_append limit hsign hne hdigits, if_pos hle]

theorem isNumeral_numeral (n : Nat) : IsNumeral (numeral n) n := by
  have hintro := IsNumeral.intro (.inl rfl) (digitsOf_ne_nil n) fun _ => isDigit_of_mem_digitsOf
  rwa [String.empty_append, digitsValue_digitsOf] at hintro

/-! ### Blanks and numerals -/

theorem isBlank_eq_false {c : Char} (h : 0x20 < c.toNat) (h' : c.toNat < 0x85) :
    isBlank c = false := by
  simp only [isBlank, Bool.or_eq_false_iff, Bool.and_eq_false_iff, decide_eq_false_iff_not,
    beq_eq_false_iff_ne]
  omega

theorem IsNumeral.ne_empty {text : String} {n : Nat} (h : IsNumeral text n) : text ≠ "" := by
  obtain ⟨-, hne, -⟩ := h
  rw [Ne, ← String.toList_eq_nil_iff, String.toList_append, String.toList_ofList,
    List.append_eq_nil_iff]
  exact fun h => hne h.2

/-- No blank stands in a numeral. -/
theorem IsNumeral.isBlank_eq_false {text : String} {n : Nat} (h : IsNumeral text n) :
    ∀ c ∈ text.toList, isBlank c = false := by
  obtain ⟨hsign, -, hdigits⟩ := h
  intro c hc
  rw [String.toList_append, String.toList_ofList, List.mem_append] at hc
  rcases hc with hc | hc
  · rcases hsign with rfl | rfl
    · cases hc
    · rw [List.mem_singleton.mp hc]
      rfl
  · have hdigit := hdigits c hc
    rw [Char.isDigit, Bool.and_eq_true, decide_eq_true_iff, decide_eq_true_iff] at hdigit
    have hlow : 48 ≤ c.toNat := hdigit.1
    have hhigh : c.toNat ≤ 57 := hdigit.2
    exact RoutineTiming.isBlank_eq_false (by omega) (by omega)

/-! ### Timing lines -/

/-- The line denotes a number of microseconds. -/
inductive DenotesMicroseconds : String → Nat → Prop
  | blank {line : String} (hline : IsBlankText line) : DenotesMicroseconds line 0
  | numeral {before text after : String} {micros : Nat} (hbefore : IsBlankText before)
      (htext : IsNumeral text micros) (hle : micros ≤ maxWord) (hafter : IsBlankText after) :
      DenotesMicroseconds (before ++ text ++ after) micros

/-- A number of microseconds in seconds: the number is rounded, and then its quotient by a
million. -/
def microseconds (micros : Nat) : Binary64 := Binary64.ofNat micros / Binary64.ofNat 1000000

theorem microseconds_zero : microseconds 0 = 0 := by decide +kernel

theorem readMicroseconds?_of_blank {line : String} (h : trim line = "") :
    readMicroseconds? line = some (microseconds 0) := by
  rw [readMicroseconds?, microseconds_zero]
  exact if_pos h

theorem readMicroseconds?_of_ne {line : String} (h : trim line ≠ "") :
    readMicroseconds? line = (readNumeral? maxWord (trim line)).map microseconds := by
  rw [readMicroseconds?]
  exact if_neg h

/-- Just the lines that denote a number of microseconds have a time read off them. -/
theorem readMicroseconds?_eq_some_iff {line : String} {seconds : Binary64} :
    readMicroseconds? line = some seconds ↔
      ∃ micros, DenotesMicroseconds line micros ∧ seconds = microseconds micros := by
  constructor
  · intro h
    obtain ⟨before, after, hline, hbefore, hafter⟩ := exists_blanks_of_trim line
    by_cases hempty : trim line = ""
    · rw [readMicroseconds?_of_blank hempty] at h
      rw [hempty, String.append_empty] at hline
      refine ⟨0, .blank fun c hc => ?_, (Option.some.inj h).symm⟩
      rw [hline, String.toList_append, List.mem_append] at hc
      exact hc.elim (hbefore c) (hafter c)
    · rw [readMicroseconds?_of_ne hempty] at h
      obtain ⟨micros, hread, rfl⟩ := Option.map_eq_some_iff.mp h
      obtain ⟨htext, hle⟩ := readNumeral?_eq_some_iff.mp hread
      exact ⟨micros, hline ▸ .numeral hbefore htext hle hafter, rfl⟩
  · rintro ⟨micros, hmicros, hseconds⟩
    rw [hseconds]
    rcases hmicros with hblank | ⟨hbefore, htext, hle, hafter⟩
    · exact readMicroseconds?_of_blank (trim_of_isBlankText hblank)
    · have htrim := trim_of_append hbefore htext.isBlank_eq_false hafter
      have hne : trim _ ≠ "" := htrim.trans_ne htext.ne_empty
      have hread := readNumeral?_eq_some_iff.mpr ⟨htext, hle⟩
      rw [readMicroseconds?_of_ne hne, htrim, hread, Option.map_some]

theorem readMicroseconds?_eq_none_iff {line : String} :
    readMicroseconds? line = none ↔ ∀ micros, ¬ DenotesMicroseconds line micros := by
  rw [Option.eq_none_iff_forall_ne_some]
  constructor
  · intro h micros hmicros
    exact h _ (readMicroseconds?_eq_some_iff.mpr ⟨micros, hmicros, rfl⟩)
  · intro h seconds hread
    obtain ⟨micros, hmicros, -⟩ := readMicroseconds?_eq_some_iff.mp hread
    exact h micros hmicros

end RoutineTiming
