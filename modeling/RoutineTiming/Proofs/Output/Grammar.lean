import Mathlib.Data.List.Forall2
import RoutineTiming.Proofs.Output.Timing

/-!
# The grammar of outputs

The last line of an output is its timing line, the one before it holds the value, and all earlier
lines are diagnostic. What is read off an output is what its lines denote, and an output is refused
only if its timing line denotes no time or, where a measurement is read, if it has no two lines.

## Main definitions

* `RoutineOutput.Denoted` : the output that lines denote.

## Main results

* `RoutineOutput.parse_eq_ok_iff`, `RoutineOutput.parse_eq_error_iff` : what is read off an output.
* `RoutineOutput.parse_grammar` : outputs, and the outputs of measurements.
-/

namespace RoutineTiming.RoutineOutput

/-- The lines denote the output. Lines that are missing count as empty, and carriage returns at the
end of a value or a diagnostic line do not belong to it. -/
inductive Denoted (lines : List String) (output : RoutineOutput) : Prop
  | short {micros : Nat} (hlines : lines.length < 2)
      (htiming : DenotesMicroseconds (lines.getLastD "") micros)
      (houtput : output = ⟨"", microseconds micros, []⟩)
  | full {diagnostics : List String} {value timing : String} {micros : Nat}
      (hlines : lines = diagnostics ++ [value, timing])
      (htiming : DenotesMicroseconds timing micros) (huser : output.user = microseconds micros)
      (hvalue : StripsReturns value output.value)
      (hdiagnostics : List.Forall₂ StripsReturns diagnostics output.diagnostics)

/-! ### The timing line and the lines before it -/

section OfLines

variable {routine timing : String} {earlier : List String}

theorem ofLines_of_some {user : Binary64} (h : readMicroseconds? timing = some user) :
    ofLines routine timing earlier = .ok ⟨(earlier.head?.map dropReturns).getD "", user,
      earlier.tail.reverse.map dropReturns⟩ := by
  rw [ofLines, h]
  cases earlier <;> rfl

theorem ofLines_of_none (h : readMicroseconds? timing = none) :
    ofLines routine timing earlier = .error (.badOutput routine (.badTiming timing)) := by
  rw [ofLines, h]

theorem ofLines_eq_ok_iff {output : RoutineOutput} :
    ofLines routine timing earlier = .ok output ↔ ∃ micros, DenotesMicroseconds timing micros ∧
      output = ⟨(earlier.head?.map dropReturns).getD "", microseconds micros,
        earlier.tail.reverse.map dropReturns⟩ := by
  cases hread : readMicroseconds? timing with
  | none =>
    have hnone := readMicroseconds?_eq_none_iff.mp hread
    rw [ofLines_of_none hread]
    exact ⟨fun h => (nomatch h), fun ⟨micros, hmicros, _⟩ => absurd hmicros (hnone micros)⟩
  | some user =>
    rw [ofLines_of_some hread]
    constructor
    · intro h
      obtain ⟨micros, hmicros, huser⟩ := readMicroseconds?_eq_some_iff.mp hread
      exact ⟨micros, hmicros, huser ▸ (Except.ok.inj h).symm⟩
    · rintro ⟨micros, hmicros, houtput⟩
      have hsome := readMicroseconds?_eq_some_iff.mpr ⟨micros, hmicros, rfl⟩
      rw [houtput, Option.some.inj (hread.symm.trans hsome)]

theorem ofLines_eq_error_iff {e : BenchError} :
    ofLines routine timing earlier = .error e ↔
      (∀ micros, ¬ DenotesMicroseconds timing micros) ∧
        e = .badOutput routine (.badTiming timing) := by
  rw [← readMicroseconds?_eq_none_iff]
  cases hread : readMicroseconds? timing with
  | none =>
    rw [ofLines_of_none hread]
    exact ⟨fun h => ⟨rfl, (Except.error.inj h).symm⟩, fun h => congrArg _ h.2.symm⟩
  | some user =>
    rw [ofLines_of_some hread]
    exact ⟨fun h => (nomatch h), fun h => (nomatch h.1)⟩

end OfLines

/-! ### What lines denote -/

section Denoted

variable {lines : List String} {output : RoutineOutput}

theorem denoted_iff_of_short (h : lines.length < 2) :
    Denoted lines output ↔ ∃ micros, DenotesMicroseconds (lines.getLastD "") micros ∧
      output = ⟨"", microseconds micros, []⟩ := by
  constructor
  · rintro (⟨-, htiming, houtput⟩ | ⟨hlines, -⟩)
    · exact ⟨_, htiming, houtput⟩
    · rw [hlines, List.length_append] at h
      exact absurd h (by simp)
  · rintro ⟨micros, htiming, houtput⟩
    exact .short h htiming houtput

theorem forall₂_stripsReturns_iff {kept : List String} :
    List.Forall₂ StripsReturns lines kept ↔ lines.map dropReturns = kept := by
  have hreturns : StripsReturns = fun line kept => dropReturns line = kept := by
    funext line kept
    exact propext stripsReturns_iff
  rw [hreturns, ← List.forall₂_map_left_iff, List.forall₂_eq_eq_eq]

theorem denoted_append_iff {diagnostics : List String} {value timing : String} :
    Denoted (diagnostics ++ [value, timing]) output ↔ ∃ micros, DenotesMicroseconds timing micros ∧
      output = ⟨dropReturns value, microseconds micros, diagnostics.map dropReturns⟩ := by
  constructor
  · rintro (⟨hshort, -⟩ | ⟨hlines, htiming, huser, hvalue, hdiagnostics⟩)
    · exact absurd hshort (by simp)
    · obtain ⟨rfl, hlast⟩ := List.append_inj' hlines rfl
      cases hlast
      refine ⟨_, htiming, ?_⟩
      rw [stripsReturns_iff.mp hvalue, forall₂_stripsReturns_iff.mp hdiagnostics, ← huser]
  · rintro ⟨micros, htiming, rfl⟩
    exact .full rfl htiming rfl (stripsReturns_iff.mpr rfl) (forall₂_stripsReturns_iff.mpr rfl)

end Denoted

/-! ### Outputs -/

variable {routine stdout : String} {lines : List String}

theorem exists_append_of_two_le (h : 2 ≤ lines.length) :
    ∃ diagnostics value timing, lines = diagnostics ++ [value, timing] := by
  rcases List.eq_nil_or_concat lines with rfl | ⟨earlier, timing, rfl⟩
  · cases h
  · rcases List.eq_nil_or_concat earlier with rfl | ⟨diagnostics, value, rfl⟩
    · exact absurd h (by simp)
    · exact ⟨diagnostics, value, timing, by simp⟩

theorem parse_eq_ofLines (h : HasLines stdout lines) :
    parse routine stdout = ofLines routine (lines.getLastD "") lines.dropLast.reverse := by
  rw [parse, linesOf_eq_iff.mpr h]
  rcases List.eq_nil_or_concat lines with rfl | ⟨earlier, timing, rfl⟩
  · rfl
  · rw [List.concat_eq_append, List.reverse_append, List.dropLast_concat, List.getLastD_concat]
    rfl

/-- The last line is the timing line and the one before it the value line. -/
theorem parse_of_hasLines {value timing : String} {diagnostics : List String}
    (h : HasLines stdout (diagnostics ++ [value, timing])) :
    parse routine stdout = ofLines routine timing (value :: diagnostics.reverse) := by
  have hsplit : diagnostics ++ [value, timing] = diagnostics ++ [value] ++ [timing] := by simp
  rw [parse_eq_ofLines h, hsplit, List.getLastD_concat, List.dropLast_concat,
    List.reverse_append]
  rfl

/-- What is read off an output is what its lines denote. -/
theorem parse_eq_ok_iff (h : HasLines stdout lines) {output : RoutineOutput} :
    parse routine stdout = .ok output ↔ Denoted lines output := by
  rcases Nat.lt_or_ge lines.length 2 with hshort | hfull
  · have hearlier : lines.dropLast = [] := by
      rw [← List.length_eq_zero_iff, List.length_dropLast]
      omega
    rw [parse_eq_ofLines h, ofLines_eq_ok_iff, denoted_iff_of_short hshort, hearlier]
    rfl
  · obtain ⟨diagnostics, value, timing, rfl⟩ := exists_append_of_two_le hfull
    rw [parse_of_hasLines h, ofLines_eq_ok_iff, denoted_append_iff]
    simp

/-- An output is refused if its timing line denotes no time, in the name of its routine. -/
theorem parse_eq_error_iff (h : HasLines stdout lines) {e : BenchError} :
    parse routine stdout = .error e ↔
      (∀ micros, ¬ DenotesMicroseconds (lines.getLastD "") micros) ∧
        e = .badOutput routine (.badTiming (lines.getLastD "")) := by
  rw [parse_eq_ofLines h, ofLines_eq_error_iff]

/-- An output is read exactly if its timing line denotes a time. -/
theorem exists_parse_eq_ok_iff (h : HasLines stdout lines) :
    (∃ output, parse routine stdout = .ok output) ↔
      ∃ micros, DenotesMicroseconds (lines.getLastD "") micros := by
  rw [parse_eq_ofLines h]
  simp only [ofLines_eq_ok_iff]
  constructor
  · rintro ⟨_, micros, hmicros, -⟩
    exact ⟨micros, hmicros⟩
  · rintro ⟨micros, hmicros⟩
    exact ⟨_, micros, hmicros, rfl⟩

/-! ### Outputs of measurements -/

theorem parseMeasurement_of_short (h : HasLines stdout lines) (hshort : lines.length < 2) :
    parseMeasurement routine stdout = .error (.badOutput routine (.tooFewLines lines.length)) := by
  rw [parseMeasurement, linesOf_eq_iff.mpr h]
  exact if_pos hshort

theorem parseMeasurement_of_full (h : HasLines stdout lines) (hfull : 2 ≤ lines.length) :
    parseMeasurement routine stdout = parse routine stdout := by
  rw [parseMeasurement, linesOf_eq_iff.mpr h]
  exact if_neg (Nat.not_lt_of_le hfull)

theorem parseMeasurement_eq_ok_iff (h : HasLines stdout lines) {output : RoutineOutput} :
    parseMeasurement routine stdout = .ok output ↔ 2 ≤ lines.length ∧ Denoted lines output := by
  rcases Nat.lt_or_ge lines.length 2 with hshort | hfull
  · rw [parseMeasurement_of_short h hshort]
    exact ⟨fun h => (nomatch h), fun ⟨hfull, _⟩ => absurd hshort (Nat.not_lt_of_le hfull)⟩
  · rw [parseMeasurement_of_full h hfull, parse_eq_ok_iff h]
    exact (and_iff_right hfull).symm

theorem exists_parseMeasurement_eq_ok_iff (h : HasLines stdout lines) :
    (∃ output, parseMeasurement routine stdout = .ok output) ↔
      2 ≤ lines.length ∧ ∃ micros, DenotesMicroseconds (lines.getLastD "") micros := by
  rcases Nat.lt_or_ge lines.length 2 with hshort | hfull
  · rw [parseMeasurement_of_short h hshort]
    exact ⟨fun ⟨_, h⟩ => (nomatch h), fun ⟨hfull, _⟩ => absurd hshort (Nat.not_lt_of_le hfull)⟩
  · rw [parseMeasurement_of_full h hfull, exists_parse_eq_ok_iff h]
    exact (and_iff_right hfull).symm

/-- A measurement is refused for want of lines before its timing line is looked at. -/
theorem parseMeasurement_eq_error_iff (h : HasLines stdout lines) {e : BenchError} :
    parseMeasurement routine stdout = .error e ↔
      (lines.length < 2 ∧ e = .badOutput routine (.tooFewLines lines.length)) ∨
        2 ≤ lines.length ∧ (∀ micros, ¬ DenotesMicroseconds (lines.getLastD "") micros) ∧
          e = .badOutput routine (.badTiming (lines.getLastD "")) := by
  rcases Nat.lt_or_ge lines.length 2 with hshort | hfull
  · have hnot : ¬ 2 ≤ lines.length := Nat.not_le_of_lt hshort
    rw [parseMeasurement_of_short h hshort]
    simp [hshort, hnot, eq_comm]
  · have hnot : ¬ lines.length < 2 := Nat.not_lt_of_le hfull
    rw [parseMeasurement_of_full h hfull, parse_eq_error_iff h]
    simp [hfull, hnot]

/-- **What is read off an output.** A text has lines in just one way. An output is read exactly if
its last line denotes a number of microseconds, and then it is what the lines denote; a measurement
is read by the same rule, but it needs two lines. Every refusal is made in the name of the
routine, and tells what is wrong. -/
theorem parse_grammar (routine stdout : String) :
    ∃ lines, HasLines stdout lines ∧ (∀ lines', HasLines stdout lines' → lines' = lines) ∧
      ((∃ output, parseMeasurement routine stdout = .ok output) ↔
        2 ≤ lines.length ∧ ∃ micros, DenotesMicroseconds (lines.getLastD "") micros) ∧
      (∀ output, parseMeasurement routine stdout = .ok output ↔
        2 ≤ lines.length ∧ Denoted lines output) ∧
      (∀ e, parseMeasurement routine stdout = .error e ↔
        (lines.length < 2 ∧ e = .badOutput routine (.tooFewLines lines.length)) ∨
          2 ≤ lines.length ∧ (∀ micros, ¬ DenotesMicroseconds (lines.getLastD "") micros) ∧
            e = .badOutput routine (.badTiming (lines.getLastD ""))) ∧
      ((∃ output, parse routine stdout = .ok output) ↔
        ∃ micros, DenotesMicroseconds (lines.getLastD "") micros) ∧
      (∀ output, parse routine stdout = .ok output ↔ Denoted lines output) ∧
      (∀ e, parse routine stdout = .error e ↔
        (∀ micros, ¬ DenotesMicroseconds (lines.getLastD "") micros) ∧
          e = .badOutput routine (.badTiming (lines.getLastD ""))) ∧
      (2 ≤ lines.length → parse routine stdout = parseMeasurement routine stdout) := by
  have h := hasLines_linesOf stdout
  exact ⟨linesOf stdout, h, fun _ h' => (linesOf_eq_iff.mpr h').symm,
    exists_parseMeasurement_eq_ok_iff h, fun _ => parseMeasurement_eq_ok_iff h,
    fun _ => parseMeasurement_eq_error_iff h, exists_parse_eq_ok_iff h, fun _ => parse_eq_ok_iff h,
    fun _ => parse_eq_error_iff h, fun hfull => (parseMeasurement_of_full h hfull).symm⟩

example : parse "a" "n\r\n\nv\r\r\n +007\r" = .ok ⟨"v", microseconds 7, ["n", ""]⟩ := by
  decide +kernel

end RoutineTiming.RoutineOutput
