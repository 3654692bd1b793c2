import RoutineTiming.Proofs.Output.Grammar

/-!
# Printed outputs

A routine prints diagnostic lines, its value and a number of microseconds, each on a line of its
own. Whatever endings the lines have, and also if the last one has none, the measurement that is
read off the text is the one that was printed.

## Main results

* `RoutineOutput.parseMeasurement_of_hasLines` : the measurement that lines denote.
* `RoutineOutput.parseMeasurement_printed` : printed measurements are read back.
-/

namespace RoutineTiming

theorem isPlainLine_numeral (n : Nat) : IsPlainLine (numeral n) := by
  have hdigits : ∀ c ∈ (numeral n).toList, c.isDigit = true := by
    rw [numeral, String.toList_ofList]
    exact fun c => isDigit_of_mem_digitsOf
  exact ⟨fun h => (nomatch hdigits _ h), fun h => (nomatch hdigits _ (List.mem_of_getLast? h))⟩

theorem denotesMicroseconds_numeral {micros : Nat} (h : micros ≤ maxWord) :
    DenotesMicroseconds (numeral micros) micros := by
  have hnone : IsBlankText "" := fun c hc => nomatch hc
  have hmicros := DenotesMicroseconds.numeral hnone (isNumeral_numeral micros) h hnone
  rwa [String.empty_append, String.append_empty] at hmicros

/-- A line that is not empty may end in the text without an ending. -/
theorem hasLines_last {line : String} (hne : line ≠ "") (hline : IsPlainLine line)
    (ending : Option LineEnding) : HasLines (line ++ ending.elim "" LineEnding.text) [line] := by
  cases ending with
  | none =>
    rw [Option.elim_none, String.append_empty]
    exact .unended hne hline.lineFeed_notMem
  | some ending =>
    have hended := HasLines.ended ending hline.lineFeed_notMem
      (fun _ => hline.not_endsInReturn) .empty
    rwa [String.append_empty] at hended

namespace RoutineOutput

variable (routine : String)

/-- The measurement of plain lines has them as they are. -/
theorem parseMeasurement_of_hasLines {stdout value timing : String} {diagnostics : List String}
    {micros : Nat} (h : HasLines stdout (diagnostics ++ [value, timing]))
    (htiming : DenotesMicroseconds timing micros) (hvalue : IsPlainLine value)
    (hdiagnostics : ∀ line ∈ diagnostics, IsPlainLine line) :
    parseMeasurement routine stdout = .ok ⟨value, microseconds micros, diagnostics⟩ := by
  have hmap : diagnostics.map dropReturns = diagnostics :=
    (List.map_congr_left fun line hline =>
      dropReturns_of_not (hdiagnostics line hline).not_endsInReturn).trans (List.map_id _)
  refine (parseMeasurement_eq_ok_iff h).mpr ⟨by simp, denoted_append_iff.mpr ⟨micros, htiming, ?_⟩⟩
  rw [dropReturns_of_not hvalue.not_endsInReturn, hmap]

/-- **Printed measurements are read back.** Diagnostic lines, a value and the numeral of a number of
microseconds are printed, each line with an ending of its own, which the last line may lack. An
empty timing line stands for zero, but it has an ending. -/
theorem parseMeasurement_printed {diagnostics : List (String × LineEnding)}
    {value : String × LineEnding} (hdiagnostics : ∀ line ∈ diagnostics, IsPlainLine line.1)
    (hvalue : IsPlainLine value.1) :
    (∀ micros ≤ maxWord, ∀ ending : Option LineEnding,
      parseMeasurement routine (printedLines (diagnostics ++ [value]) ++ numeral micros ++
          ending.elim "" LineEnding.text) =
        .ok ⟨value.1, microseconds micros, diagnostics.map Prod.fst⟩) ∧
    ∀ ending : LineEnding,
      parseMeasurement routine (printedLines (diagnostics ++ [value]) ++ ending.text) =
        .ok ⟨value.1, 0, diagnostics.map Prod.fst⟩ := by
  have hplain : ∀ line ∈ diagnostics ++ [value], IsPlainLine line.1 := by
    rintro line (hline : line ∈ diagnostics ++ [value])
    rcases List.mem_append.mp hline with hline | hline
    · exact hdiagnostics line hline
    · rwa [List.mem_singleton.mp hline]
  have hlines {text timing : String} (h : HasLines text [timing]) :
      HasLines (printedLines (diagnostics ++ [value]) ++ text)
        (diagnostics.map Prod.fst ++ [value.1, timing]) := by
    have happend := hasLines_printedLines hplain h
    rwa [List.map_append, List.append_assoc] at happend
  have hkept : ∀ line ∈ diagnostics.map Prod.fst, IsPlainLine line := by
    rintro _ hline
    obtain ⟨line, hmem, rfl⟩ := List.mem_map.mp hline
    exact hdiagnostics line hmem
  constructor
  · intro micros hle ending
    have hlast := hasLines_last (isNumeral_numeral micros).ne_empty (isPlainLine_numeral micros)
      ending
    rw [String.append_assoc]
    exact parseMeasurement_of_hasLines routine (hlines hlast) (denotesMicroseconds_numeral hle)
      hvalue hkept
  · intro ending
    have hempty : HasLines ending.text [""] := by
      have hended : HasLines ("" ++ ending.text ++ "") [""] :=
        .ended ending (fun h => nomatch h) (fun _ h => nomatch h) .empty
      rwa [String.empty_append, String.append_empty] at hended
    have hzero : DenotesMicroseconds "" 0 := .blank fun c hc => nomatch hc
    rw [← microseconds_zero]
    exact parseMeasurement_of_hasLines routine (hlines hempty) hzero hvalue hkept

/-- Empty lines, carriage returns inside of lines and both endings, once with the largest number on
a last line without an ending, and once with an empty timing line. -/
theorem parseMeasurement_printed_mixed :
    parseMeasurement "a" "n\n\r\n \rv\r\n18446744073709551615" =
        .ok ⟨" \rv", microseconds maxWord, ["n", ""]⟩ ∧
      parseMeasurement "a" "n\n\r\n \rv\r\n\r\n" = .ok ⟨" \rv", 0, ["n", ""]⟩ := by
  have hplain {line : String} (h : '\n' ∉ line.toList ∧ ¬ EndsInReturn line) : IsPlainLine line :=
    ⟨h.1, h.2⟩
  have hdiagnostics : ∀ line ∈ [("n", LineEnding.lineFeed), ("", .returnLineFeed)],
      IsPlainLine line.1 := by
    intro line hline
    rcases List.mem_pair.mp hline with rfl | rfl
    · exact hplain (by decide)
    · exact hplain (by decide)
  have hvalue : IsPlainLine (" \rv", LineEnding.returnLineFeed).1 := hplain (by decide)
  obtain ⟨hnumber, hempty⟩ := parseMeasurement_printed "a" hdiagnostics hvalue
  exact ⟨hnumber maxWord (Nat.le_refl _) none, hempty .returnLineFeed⟩

end RoutineOutput

end RoutineTiming
