import RoutineTiming.Proofs.Binary64.Roundings
import RoutineTiming.Proofs.Measuring.Convergence
import RoutineTiming.Proofs.Output.Printed

/-!
# Microseconds from the timing line to the table

What a routine prints in microseconds is turned into seconds, divided by the iteration count and
turned into microseconds again, with a rounding each time. If every launch prints the same multiple
of the count, and neither this nor the multiplier is too large, then the table shows the multiplier.

## Main definitions

* `PrintsMicroseconds` : an answer with a number of microseconds on its timing line.

## Main results

* `Statistic.KeepsBounds.reduce_eq` : equal samples are reduced to what they are.
* `wholeMicroseconds_quotient` : the text of a number of microseconds that is divided.
* `measured_microseconds` : what a round shows.
-/

namespace RoutineTiming

/-! ### Equal samples -/

/-- Samples that are all one amount are reduced to it. -/
theorem Statistic.KeepsBounds.reduce_eq {statistic : Statistic} {samples : List Binary64}
    {k : Nat} {x : Binary64} (hstatistic : statistic.KeepsBounds samples.length)
    (hx : x.IsAmount k) (h : ∀ y ∈ samples, y = x) : statistic.reduce samples = x := by
  rcases hstatistic with ⟨rfl, hlength⟩ | ⟨rfl, hlength⟩
  · obtain ⟨y, hy⟩ := List.exists_mem_of_length_pos hlength
    have hnumber : y.isNaN = false := h y hy ▸ Binary64.isNaN_of_isFinite hx.isFinite
    exact h _ (reduce_min_mem ⟨y, hy, hnumber⟩)
  · obtain ⟨y, rfl⟩ := List.length_eq_one_iff.mp hlength
    rw [h y (List.mem_singleton_self y)]
    exact hx.sum_div_one

/-! ### Roundings -/

/-- The multiplier is left if a multiple of the count in microseconds is divided by the count. -/
theorem wholeMicroseconds_quotient {n m : Nat} (hpos : 0 < n) (hn : n ≤ 2 ^ 53) (hm : m ≤ 2 ^ 50)
    (hnm : n * m ≤ 2 ^ 53) :
    wholeMicroseconds (microseconds (n * m) / Binary64.ofNat n) = numeral m ++ "us" := by
  -- the quotients have all their 53 bits, and the product is far from the limit of the format
  have hseconds : (microseconds (n * m)).IsRounded 1 (n * m) (1 * 1000000) :=
    (Binary64.isRounded_ofNat hnm).div Nat.one_pos (by decide) (by decide) (by decide +kernel)
  have hden : 0 < 1 * 1000000 * n := Nat.mul_pos (by decide) hpos
  have hquotient : (microseconds (n * m) / Binary64.ofNat n).IsRounded 2 (n * m)
      (1 * 1000000 * n) := by
    refine hseconds.div (by decide) hpos hn (Nat.le_trans ?_
      (show 2 ^ 1 * (1 * 1000000 * (2 ^ 52 * 2 ^ 53)) ≤ Binary64.unit by decide +kernel))
    exact Nat.mul_le_mul_left _ (Nat.mul_le_mul_left _ (Nat.mul_le_mul_left _ hn))
  have hproduct : (microseconds (n * m) / Binary64.ofNat n * Binary64.ofNat 1000000).IsRounded 3
      (n * m * 1000000) (1 * 1000000 * n) := by
    refine hquotient.mul hden (by decide) (Nat.le_trans ?_
      (show 2 ^ 2 * (1 * 1000000 * 2 ^ 53 * 2 ^ 52) ≤ Binary64.unit by decide +kernel))
      (show 75 < 1024 by decide) ?_
    · exact Nat.mul_le_mul_left _ (Nat.mul_le_mul_right _ (Nat.mul_le_mul_left _ hn))
    · exact Nat.le_trans (Nat.mul_le_mul_left _ (Nat.mul_le_mul_right _ hnm)) (by decide)
  have hwhole : n * m * 1000000 = 1 * 1000000 * n * m := by
    rw [Nat.one_mul, Nat.mul_comm, Nat.mul_assoc]
  rw [hwhole] at hproduct
  rw [wholeMicroseconds, Binary64.million_eq, hproduct.toFixed_zero hden hm]

/-! ### Rounds -/

/-- The answer is a process that succeeded and printed a number of microseconds on its last line,
after its value and any other lines. -/
def PrintsMicroseconds (micros : Nat) (answer : Except BenchError Invocation) : Prop :=
  ∃ invocation diagnostics value, answer = .ok invocation ∧ invocation.failure = none ∧
    HasLines invocation.stdout (diagnostics ++ [value, numeral micros])

/-- A number of microseconds that is printed is measured. -/
theorem PrintsMicroseconds.exists_measurementOf {micros : Nat}
    {answer : Except BenchError Invocation} (h : PrintsMicroseconds micros answer)
    (hle : micros ≤ maxWord) (routine : String) :
    ∃ m, measurementOf routine answer = .ok m ∧ m.user = microseconds micros := by
  obtain ⟨invocation, diagnostics, value, rfl, hfailure, hlines⟩ := h
  have houtput : RoutineOutput.parseMeasurement routine invocation.stdout =
      .ok ⟨dropReturns value, microseconds micros, diagnostics.map dropReturns⟩ :=
    (RoutineOutput.parseMeasurement_eq_ok_iff hlines).mpr ⟨by simp,
      RoutineOutput.denoted_append_iff.mpr ⟨micros, denotesMicroseconds_numeral hle, rfl⟩⟩
  exact ⟨_, measurementOf_of_ok hfailure houtput, rfl⟩

section Round

variable {σ : Type} {invoker : Invoker σ} {runtime : Runtime} {settings : Settings}
  {routine : String} {size n m : Nat} {state : SessionState σ}

/-- **Microseconds survive** from the timing line to the table. If every launch of a round prints
`n * m` microseconds, where `n` is the iteration count, then the round has a result, and the time of
the inner loop for one iteration is shown as `m` microseconds. -/
theorem measured_microseconds (initTime : Binary64) (hpos : 1 ≤ n) (hn : n ≤ 2 ^ 53)
    (hm : m ≤ 2 ^ 50) (hnm : n * m ≤ 2 ^ 53)
    (hstatistic : settings.statistic.KeepsBounds settings.repetitions)
    (hcount : state.table.get? routine size = some n)
    (hprinted : ∀ answer ∈ invoker.replies (List.replicate settings.repetitions
      ((Purpose.measurement routine size n).args runtime)) state.invoker,
      PrintsMicroseconds (n * m) answer) :
    ∃ measurements result,
      (invoker.replies (List.replicate settings.repetitions
        ((Purpose.measurement routine size n).args runtime)) state.invoker).mapM
          (measurementOf routine) = .ok measurements ∧
      (measureRound invoker runtime settings initTime routine size state).result = .ok result ∧
      result = (measurements.foldl Samples.push {}).aggregate n initTime settings.statistic ∧
      wholeMicroseconds result.userPerIteration = numeral m ++ "us" := by
  have hle : n * m ≤ maxWord := Nat.le_trans hnm (by decide)
  obtain ⟨measurements, hreplies, hlength, husers⟩ := exists_mapM_eq_ok fun answer h =>
    (hprinted answer h).exists_measurementOf hle routine
  rw [Invoker.length_replies, List.length_replicate] at hlength
  refine ⟨measurements, _, hreplies, ?_, rfl, ?_⟩
  · rw [measureRound_of_some _ _ _ _ hcount, Session.bind_pure_apply,
      collectSamples_of_ok {} state.table rfl hreplies]
    rfl
  · have huser : settings.statistic.reduce (measurements.map Measurement.user) =
        microseconds (n * m) := by
      refine Statistic.KeepsBounds.reduce_eq (k := 64) ?_ ?_ (List.forall_mem_map.mpr husers)
      · rwa [List.length_map, hlength]
      · exact isAmount_of_readMicroseconds?
          (readMicroseconds?_eq_some_iff.mpr ⟨_, denotesMicroseconds_numeral hle, rfl⟩)
    have hmax : Nat.max n 1 = n := Nat.max_eq_left hpos
    rw [Samples.foldl_push_empty]
    change wholeMicroseconds (settings.statistic.reduce (measurements.map Measurement.user) /
      Binary64.ofNat (Nat.max n 1)) = _
    rw [huser, hmax, wholeMicroseconds_quotient hpos hn hm hnm]

/-- A launch with three iterations takes 1500 microseconds, twice. -/
theorem measured_microseconds_three :
    let invoker : Invoker Unit := fun _ s =>
      (.ok { stdout := "n\n8\n1500\n", stderr := "", elapsed := .ofNanoseconds 2000000,
             failure := none }, s)
    let settings : Settings := { repetitions := 2, statistic := .min }
    let state : SessionState Unit := { invoker := (), table := IterationTable.set {} "a" 8 3 }
    ∃ result,
      (measureRound invoker { program := "m" } settings 0 "a" 8 state).result = .ok result ∧
        wholeMicroseconds result.userPerIteration = "500us" := by
  intro invoker settings state
  have hlines : HasLines "n\n8\n1500\n" (["n"] ++ ["8", numeral (3 * 500)]) :=
    linesOf_eq_iff.mp (by decide +kernel)
  have hprinted : ∀ answer ∈ invoker.replies (List.replicate settings.repetitions
      ((Purpose.measurement "a" 8 3).args { program := "m" })) state.invoker,
      PrintsMicroseconds (3 * 500) answer := by
    intro answer hanswer
    rcases List.mem_pair.mp hanswer with rfl | rfl
    · exact ⟨_, ["n"], "8", rfl, rfl, hlines⟩
    · exact ⟨_, ["n"], "8", rfl, rfl, hlines⟩
  obtain ⟨-, result, -, hresult, -, htext⟩ := measured_microseconds 0 (by decide) (by decide)
    (by decide) (by decide) (.inl ⟨rfl, by decide⟩) (by decide +kernel) hprinted
  exact ⟨result, hresult, htext.trans (by decide +kernel)⟩

end Round

end RoutineTiming
