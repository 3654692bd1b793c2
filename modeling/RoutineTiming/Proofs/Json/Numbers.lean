import RoutineTiming.Proofs.Decimal.Shortest
import RoutineTiming.Proofs.Json.Reading

/-!
# Numbers read back

The text of a natural number reads back as this number, and that of a finite number as the same
number, its sign included, as long as no number goes on behind the text.

## Main definitions

* `Json.Ends` : texts in which no number goes on.
* `Json.Numeral` : the parts of a number.

## Main results

* `Json.Numeral.readUnsigned_text` : the parts are read one by one.
* `Json.readNumber_digitsOf` : natural numbers.
* `Json.exists_numeral` : the parts of a decimal in the layout of numbers.
* `Json.readNumber_numberText` : finite numbers.
-/

namespace RoutineTiming.Json

/-! ### Digits -/

/-- No digit stands at the front of the text. -/
def NoDigit (text : List Char) : Prop := ∀ c ∈ text.head?, c.isDigit = false

/-- No number goes on in the text. -/
def Ends (text : List Char) : Prop :=
  ∀ c ∈ text.head?, c.isDigit = false ∧ c ≠ '.' ∧ c ≠ 'e' ∧ c ≠ 'E'

theorem Ends.noDigit {text : List Char} (h : Ends text) : NoDigit text := fun c hc => (h c hc).1

theorem noDigit_cons {c : Char} (h : c.isDigit = false) (text : List Char) :
    NoDigit (c :: text) := fun _ hc => Option.some.inj hc ▸ h

theorem takeDigits_append {digits rest : List Char} (hne : digits ≠ [])
    (hdigits : ∀ c ∈ digits, c.isDigit = true) (hrest : NoDigit rest) :
    takeDigits (digits ++ rest) = some (digits, rest) := by
  have htake : (digits ++ rest).takeWhile Char.isDigit = digits := by
    rw [List.takeWhile_append_of_pos hdigits]
    cases rest with
    | nil => exact List.append_nil digits
    | cons c rest =>
      rw [List.takeWhile_cons_of_neg (by simp [hrest c rfl]), List.append_nil]
  have hdrop : (digits ++ rest).dropWhile Char.isDigit = rest := by
    rw [List.dropWhile_append_of_pos hdigits]
    cases rest with
    | nil => rfl
    | cons c rest => exact List.dropWhile_cons_of_neg (by simp [hrest c rfl])
  rw [takeDigits, htake, hdrop]
  exact if_neg hne

/-- Digits that may stand in front of a point: a zero alone, or digits that begin with another
one. -/
def IsWhole (digits : List Char) : Prop :=
  digits = ['0'] ∨
    ∃ lead rest, digits = lead :: rest ∧ lead ≠ '0' ∧ ∀ c ∈ digits, c.isDigit = true

theorem isWhole_digitsOf (n : Nat) : IsWhole (digitsOf n) := by
  by_cases h : n = 0
  · exact .inl (h ▸ Nat.toDigits_zero 10)
  · obtain ⟨lead, rest, hdigits, hlead⟩ := exists_digitsOf h
    exact .inr ⟨lead, rest, hdigits, hlead, fun c hc => isDigit_of_mem_digitsOf hc⟩

/-- Such digits begin with a digit. -/
theorem IsWhole.exists_cons {digits : List Char} (h : IsWhole digits) :
    ∃ lead rest, digits = lead :: rest ∧ lead.isDigit = true := by
  rcases h with rfl | ⟨lead, rest, rfl, -, hdigits⟩
  · exact ⟨'0', [], rfl, rfl⟩
  · exact ⟨lead, rest, rfl, hdigits lead List.mem_cons_self⟩

theorem takeWhole_append {digits rest : List Char} (h : IsWhole digits) (hrest : NoDigit rest) :
    takeWhole (digits ++ rest) = some (digits, rest) := by
  rcases h with rfl | ⟨lead, tail, rfl, hlead, hdigits⟩
  · rfl
  · rw [takeWhole]
    · exact takeDigits_append (List.cons_ne_nil lead tail) hdigits hrest
    · intro rest' heq
      exact hlead (List.cons.inj heq).1

/-! ### Numbers -/

/-- The text of the digits behind a point. -/
def fractionPart (fraction : List Char) : List Char :=
  if fraction = [] then [] else '.' :: fraction

/-- The text of a power of ten. -/
def powerPart : Option Int → List Char
  | none => []
  | some power => ['e', if power < 0 then '-' else '+'] ++ digitsOf power.natAbs

theorem takeFraction_append {fraction rest : List Char} (h : ∀ c ∈ fraction, c.isDigit = true)
    (hrest : ∀ c ∈ rest.head?, c.isDigit = false ∧ c ≠ '.') :
    takeFraction (fractionPart fraction ++ rest) = some (fraction, rest) := by
  rw [fractionPart]
  split
  · next hnil =>
    rw [hnil, List.nil_append, takeFraction]
    intro rest' heq
    exact (hrest '.' (by rw [heq]; rfl)).2 rfl
  · next hne => exact takeDigits_append hne h fun c hc => (hrest c hc).1

theorem takePower_append {power : Option Int} {rest : List Char} (hrest : Ends rest) :
    takePower (powerPart power ++ rest) = some (power, rest) := by
  cases power with
  | none =>
    cases rest with
    | nil => rfl
    | cons c rest =>
      obtain ⟨-, -, hsmall, hlarge⟩ := hrest c rfl
      exact if_neg (not_or.mpr ⟨hsmall, hlarge⟩)
  | some power =>
    have hdigits : takeDigits (digitsOf power.natAbs ++ rest) =
        some (digitsOf power.natAbs, rest) :=
      takeDigits_append (digitsOf_ne_nil _) (fun c hc => isDigit_of_mem_digitsOf hc) hrest.noDigit
    by_cases hnegative : power < 0
    · rw [powerPart, if_pos hnegative]
      change (takeDigits (digitsOf power.natAbs ++ rest)).map _ = _
      simp only [hdigits, Option.map_some, digitsValue_digitsOf]
      rw [show -(power.natAbs : Int) = power by omega]
    · rw [powerPart, if_neg hnegative]
      change (takeDigits (digitsOf power.natAbs ++ rest)).map _ = _
      simp only [hdigits, Option.map_some, digitsValue_digitsOf]
      rw [show (power.natAbs : Int) = power by omega]

/-- The parts of a number without its sign: the digits in front of the point, those behind it, and
the power of ten. -/
structure Numeral where
  whole : List Char
  fraction : List Char
  power : Option Int
  isWhole : IsWhole whole
  isDigit_fraction : ∀ c ∈ fraction, c.isDigit = true

namespace Numeral

variable (n : Numeral)

/-- The text of the parts. -/
def text : List Char := n.whole ++ (fractionPart n.fraction ++ powerPart n.power)

/-- The decimal that the parts denote. -/
def decimal : Decimal :=
  ⟨digitsValue 0 (n.whole ++ n.fraction), n.power.getD 0 - n.fraction.length⟩

/-- The number has neither a point nor a power. -/
def IsPlain : Prop := n.fraction = [] ∧ n.power = none

instance : Decidable n.IsPlain := inferInstanceAs (Decidable (_ ∧ _))

theorem exists_text_eq_cons : ∃ lead rest, n.text = lead :: rest ∧ lead.isDigit = true := by
  obtain ⟨lead, rest, hwhole, hlead⟩ := n.isWhole.exists_cons
  exact ⟨lead, rest ++ (fractionPart n.fraction ++ powerPart n.power),
    by rw [text, hwhole, List.cons_append], hlead⟩

theorem readUnsigned_text (negative : Bool) {rest : List Char} (hrest : Ends rest) :
    readUnsigned negative (n.text ++ rest) =
      if negative = false ∧ n.IsPlain then some (.natural (digitsValue 0 n.whole), rest)
      else if (Binary64.ofDecimal negative n.decimal).isFinite then
        some (.number (Binary64.ofDecimal negative n.decimal), rest)
      else none := by
  have hpower : ∀ c ∈ (powerPart n.power ++ rest).head?, c.isDigit = false ∧ c ≠ '.' := by
    cases n.power with
    | none => exact fun c hc => ⟨(hrest c hc).1, (hrest c hc).2.1⟩
    | some power =>
      intro c hc
      rw [← Option.some.inj hc]
      decide
  have hfraction : NoDigit (fractionPart n.fraction ++ (powerPart n.power ++ rest)) := by
    rw [fractionPart]
    split
    · exact fun c hc => (hpower c hc).1
    · exact noDigit_cons rfl _
  rw [text, List.append_assoc, List.append_assoc, readUnsigned,
    takeWhole_append n.isWhole hfraction]
  simp only [Option.bind_eq_bind, Option.bind_some, takeFraction_append n.isDigit_fraction hpower,
    takePower_append hrest]
  rfl

end Numeral

/-- A number that begins with a digit has no sign. -/
theorem readNumber_of_isDigit {c : Char} (h : c.isDigit = true) (text : List Char) :
    readNumber (c :: text) = readUnsigned false (c :: text) := by
  rw [readNumber]
  rintro rest heq
  cases heq
  cases h

/-- The digits of a natural number read back. -/
theorem readNumber_digitsOf (n : Nat) {rest : List Char} (hrest : Ends rest) :
    readNumber (digitsOf n ++ rest) = some (.natural n, rest) := by
  let parts : Numeral := ⟨digitsOf n, [], none, isWhole_digitsOf n, List.forall_mem_nil _⟩
  have hread := parts.readUnsigned_text false hrest
  rw [if_pos ⟨rfl, rfl, rfl⟩] at hread
  have htext : parts.text = digitsOf n := List.append_nil _
  obtain ⟨c, tail, hcons, hc⟩ := parts.exists_text_eq_cons
  rw [hcons, List.cons_append, ← readNumber_of_isDigit hc, ← List.cons_append, ← hcons, htext]
    at hread
  rw [hread]
  exact congrArg (fun n => some (Json.natural n, rest)) (digitsValue_digitsOf n)

/-- A number with a point or a power reads back. -/
theorem readNumber_text {n : Numeral} (hmarked : ¬ n.IsPlain) (negative : Bool)
    {rest : List Char} (hrest : Ends rest)
    (hfinite : (Binary64.ofDecimal negative n.decimal).isFinite = true) :
    readNumber ((if negative then '-' :: n.text else n.text) ++ rest) =
      some (.number (Binary64.ofDecimal negative n.decimal), rest) := by
  have hread := n.readUnsigned_text negative hrest
  rw [if_neg (fun h => hmarked h.2), if_pos hfinite] at hread
  cases negative with
  | true => exact hread
  | false =>
    obtain ⟨c, tail, hcons, hc⟩ := n.exists_text_eq_cons
    rw [if_neg Bool.false_ne_true, hcons, List.cons_append, readNumber_of_isDigit hc,
      ← List.cons_append, ← hcons, hread]

/-! ### Shortest decimals -/

/-- A number below one, with zeros between the point and its digits. -/
theorem exists_numeral_of_small (d : Decimal) {power : Int}
    (hpower : power = d.exponent + (digitsOf d.significand).length - 1) (hsmall : power < 0) :
    ∃ n : Numeral, n.text = DecimalLayout.positional (digitsOf d.significand) power ∧
      ¬ n.IsPlain ∧ n.decimal = d := by
  let zeros := (-power - 1).toNat
  let fraction := List.replicate zeros '0' ++ digitsOf d.significand
  have hne : fraction ≠ [] := List.append_ne_nil_of_right_ne_nil _ (digitsOf_ne_nil _)
  have hdigits : ∀ c ∈ fraction, c.isDigit = true := by
    intro c hc
    rcases List.mem_append.mp hc with hc | hc
    · exact isDigit_of_mem_zeros hc
    · exact isDigit_of_mem_digitsOf hc
  refine ⟨⟨['0'], fraction, none, .inl rfl, hdigits⟩, ?_, fun h => hne h.1, ?_⟩
  · rw [DecimalLayout.positional, if_pos hsmall, Numeral.text]
    simp only [fractionPart, if_neg hne, powerPart, List.append_nil]
    rfl
  · have hvalue : digitsValue 0 (['0'] ++ fraction) = d.significand := by
      change digitsValue 0 fraction = _
      rw [digitsValue_zeros_append, digitsValue_digitsOf]
    have hlength : fraction.length = zeros + (digitsOf d.significand).length := by
      rw [List.length_append, List.length_replicate]
    rw [Numeral.decimal]
    simp only [hvalue, hlength, Option.getD_none]
    congr 1
    omega

/-- A number of at least one, with zeros at the end as far as they are needed. -/
theorem exists_numeral_of_large {d : Decimal} (hzero : d.significand = 0 → d.exponent = 0)
    {power : Int} (hpower : power = d.exponent + (digitsOf d.significand).length - 1)
    (hlarge : ¬ power < 0) :
    ∃ n : Numeral, n.text = DecimalLayout.positional (digitsOf d.significand) power ∧
      ¬ n.IsPlain ∧ ∃ zeros : Nat,
        n.decimal = ⟨d.significand * 10 ^ zeros, d.exponent - zeros⟩ := by
  let whole := power.toNat + 1
  let zeros := whole + 1 - (digitsOf d.significand).length
  let padded := digitsOf d.significand ++ List.replicate zeros '0'
  have hlength : padded.length = (digitsOf d.significand).length + zeros := by
    rw [List.length_append, List.length_replicate]
  have hdigits : ∀ c ∈ padded, c.isDigit = true := by
    intro c hc
    rcases List.mem_append.mp hc with hc | hc
    · exact isDigit_of_mem_digitsOf hc
    · exact isDigit_of_mem_zeros hc
  have hwhole : IsWhole (padded.take whole) := by
    by_cases h : d.significand = 0
    · have hone : power = 0 := by
        rw [hpower, hzero h, h]
        rfl
      left
      simp only [padded, whole, zeros, h, hone]
      rfl
    · obtain ⟨lead, rest, hcons, hlead⟩ := exists_digitsOf h
      refine .inr ⟨lead, (rest ++ List.replicate zeros '0').take power.toNat, ?_, hlead,
        fun c hc => hdigits c (List.mem_of_mem_take hc)⟩
      simp only [padded, whole, hcons, List.cons_append, List.take_succ_cons]
  have hfraction : ∀ c ∈ padded.drop whole, c.isDigit = true :=
    fun c hc => hdigits c (List.mem_of_mem_drop hc)
  have hne : padded.drop whole ≠ [] := by
    rw [ne_eq, List.drop_eq_nil_iff]
    omega
  refine ⟨⟨padded.take whole, padded.drop whole, none, hwhole, hfraction⟩, ?_, fun h => hne h.1,
    zeros, ?_⟩
  · rw [DecimalLayout.positional, if_neg hlarge, Numeral.text]
    simp only [fractionPart, if_neg hne, powerPart, List.append_nil]
    rfl
  · have hvalue : digitsValue 0 padded = d.significand * 10 ^ zeros := by
      rw [digitsValue_append_zeros, digitsValue_digitsOf]
    rw [Numeral.decimal]
    simp only [List.take_append_drop, hvalue, List.length_drop, hlength, Option.getD_none]
    congr 1
    omega

/-- A number with one digit in front of the point and a power. -/
theorem exists_numeral_of_power (d : Decimal) {power : Int}
    (hpower : power = d.exponent + (digitsOf d.significand).length - 1) :
    ∃ n : Numeral, n.text = DecimalLayout.exponential (digitsOf d.significand) power ∧
      ¬ n.IsPlain ∧ n.decimal = d := by
  have hvalue := digitsValue_digitsOf d.significand
  have hdigits : ∀ c ∈ digitsOf d.significand, c.isDigit = true :=
    fun c hc => isDigit_of_mem_digitsOf hc
  have hne := digitsOf_ne_nil d.significand
  generalize digitsOf d.significand = digits at hpower hvalue hdigits hne
  cases digits with
  | nil => exact absurd rfl hne
  | cons lead rest =>
    obtain ⟨hlead, hrest⟩ := List.forall_mem_cons.mp hdigits
    have hwhole : IsWhole [lead] := by
      by_cases h : lead = '0'
      · exact .inl (congrArg (fun c => [c]) h)
      · exact .inr ⟨lead, [], rfl, h, fun c hc => List.mem_singleton.mp hc ▸ hlead⟩
    refine ⟨⟨[lead], rest, some power, hwhole, hrest⟩, ?_, fun h => Option.some_ne_none _ h.2, ?_⟩
    · cases rest with
      | nil => rfl
      | cons next rest =>
        simp [Numeral.text, fractionPart, powerPart, DecimalLayout.exponential]
    · rw [Numeral.decimal]
      simp only [List.singleton_append, hvalue, Option.getD_some]
      congr 1
      rw [List.length_cons] at hpower
      omega

/-- A decimal in the layout of numbers has a point or a power, and the value of the decimal. -/
theorem exists_numeral {d : Decimal} (hzero : d.significand = 0 → d.exponent = 0) :
    ∃ n : Numeral, n.text = numberLayout.write d ∧ ¬ n.IsPlain ∧
      ∀ negative, Binary64.ofDecimal negative n.decimal = Binary64.ofDecimal negative d := by
  rw [DecimalLayout.write]
  generalize hpower : d.exponent + (digitsOf d.significand).length - 1 = power
  split
  · by_cases hsmall : power < 0
    · obtain ⟨n, htext, hmarked, hdecimal⟩ := exists_numeral_of_small d hpower.symm hsmall
      exact ⟨n, htext, hmarked, fun negative => congrArg _ hdecimal⟩
    · obtain ⟨n, htext, hmarked, zeros, hdecimal⟩ :=
        exists_numeral_of_large hzero hpower.symm hsmall
      exact ⟨n, htext, hmarked, fun negative => by
        rw [hdecimal, Binary64.ofDecimal_scale]⟩
  · obtain ⟨n, htext, hmarked, hdecimal⟩ := exists_numeral_of_power d hpower.symm
    exact ⟨n, htext, hmarked, fun negative => congrArg _ hdecimal⟩

theorem exists_numberText_eq_cons (negative : Bool) {quanta : Nat}
    (h : Binary64.Representable quanta) :
    ∃ lead rest, numberText (.finite negative quanta h) = lead :: rest ∧
      (lead = '-' ∨ lead.isDigit = true) := by
  obtain ⟨n, htext, -⟩ := exists_numeral (d := Binary64.shortest quanta) Decimal.exponent_strip
  obtain ⟨lead, rest, hcons, hlead⟩ := n.exists_text_eq_cons
  rw [numberText, ← htext, hcons]
  cases negative with
  | true => exact ⟨'-', lead :: rest, rfl, .inl rfl⟩
  | false => exact ⟨lead, rest, rfl, .inr hlead⟩

/-- A finite number reads back, its sign included. -/
theorem readNumber_numberText (negative : Bool) {quanta : Nat}
    (h : Binary64.Representable quanta) {rest : List Char} (hrest : Ends rest) :
    readNumber (numberText (.finite negative quanta h) ++ rest) =
      some (.number (.finite negative quanta h), rest) := by
  obtain ⟨n, htext, hmarked, hvalue⟩ :=
    exists_numeral (d := Binary64.shortest quanta) Decimal.exponent_strip
  have hshortest := (hvalue negative).trans (Binary64.ofDecimal_shortest h negative)
  have hread := readNumber_text hmarked negative hrest (by rw [hshortest]; rfl)
  rw [hshortest, htext] at hread
  exact hread

end RoutineTiming.Json
