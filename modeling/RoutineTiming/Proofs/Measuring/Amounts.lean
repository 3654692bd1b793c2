import RoutineTiming.Proofs.Measuring.Report
import RoutineTiming.Proofs.Report.Numbers

/-!
# The numbers of a finished run

Every time that a run reads or computes is an amount: lengths of processes and what routines print,
the startup overhead, and the numbers of each cell. So a report has neither infinities nor negative
times, whatever the processes do. If cells have to take at least as long as the startup overhead,
then the overhead is taken off in full.

## Main results

* `Duration.isAmount_seconds`, `isAmount_of_measurementOf`, `isAmount_of_readings_eq` : what is
  measured.
* `Statistic.isAmount_reduce`, `Samples.isAmount_aggregate` : what is computed from it.
* `isAmount_of_calibrate` : the startup overhead.
* `run_numbers` : the numbers of a finished run.
-/

namespace RoutineTiming

/-! ### What is measured -/

/-- A length of time is less than `2 ^ 65` seconds. -/
theorem Duration.isAmount_seconds (d : Duration) : d.seconds.IsAmount 65 := by
  have hwhole : (Binary64.ofNat (d.nanoseconds / 10 ^ 9)).IsAmount 64 := by
    refine Binary64.isAmount_ofNat (by decide) (Nat.le_of_lt ?_)
    exact Nat.div_lt_of_lt_mul (Nat.mul_comm (2 ^ 64) (10 ^ 9) ▸ d.bounded)
  have hrest : (Binary64.ofNat (d.nanoseconds % 10 ^ 9)).IsAmount 64 := by
    refine Binary64.isAmount_ofNat (by decide) ?_
    have := Nat.mod_lt d.nanoseconds (show 0 < 10 ^ 9 by decide)
    omega
  have hfraction := hrest.div (Binary64.one_le_ofNat (show 1 ≤ 10 ^ 9 by decide)) (by decide)
  exact hwhole.add hfraction (by decide)

theorem le_of_readNumeral? {limit n : Nat} {text : String} (h : readNumeral? limit text = some n) :
    n ≤ limit := by
  simp only [readNumeral?, Option.ite_none_right_eq_some] at h
  obtain ⟨-, hle, h⟩ := h
  exact Option.some.inj h ▸ hle

theorem isAmount_of_readMicroseconds? {line : String} {x : Binary64}
    (h : readMicroseconds? line = some x) : x.IsAmount 64 := by
  simp only [readMicroseconds?] at h
  split at h
  · rw [← Option.some.inj h, Binary64.zero_eq]
    exact Binary64.isAmount_zero 64
  · obtain ⟨n, hn, rfl⟩ := Option.map_eq_some_iff.mp h
    have hle : n ≤ 2 ^ 64 := Nat.le_trans (le_of_readNumeral? hn) (by decide)
    exact (Binary64.isAmount_ofNat (by decide) hle).div
      (Binary64.one_le_ofNat (by decide)) (by decide)

theorem isAmount_of_parseMeasurement {routine stdout : String} {output : RoutineOutput}
    (h : RoutineOutput.parseMeasurement routine stdout = .ok output) : output.user.IsAmount 64 := by
  have hlines (timing : String) (earlier : List String)
      (h : RoutineOutput.ofLines routine timing earlier = .ok output) :
      output.user.IsAmount 64 := by
    rw [RoutineOutput.ofLines] at h
    split at h
    · cases h
    · next hread =>
      split at h <;> cases h <;> exact isAmount_of_readMicroseconds? hread
  simp only [RoutineOutput.parseMeasurement] at h
  split at h
  · cases h
  · rw [RoutineOutput.parse] at h
    split at h
    · exact hlines _ _ h
    · exact hlines _ _ h

/-- The times of a measurement are amounts, whatever was printed and however long it took. -/
theorem isAmount_of_measurementOf {routine : String} {answer : Except BenchError Invocation}
    {m : Measurement} (h : measurementOf routine answer = .ok m) :
    m.real.IsAmount 65 ∧ m.user.IsAmount 65 := by
  obtain ⟨invocation, -, hm⟩ := bind_eq_ok_iff.mp h
  obtain ⟨_, -, hm⟩ := bind_eq_ok_iff.mp hm
  obtain ⟨output, houtput, hm⟩ := bind_eq_ok_iff.mp hm
  cases hm
  exact ⟨invocation.elapsed.isAmount_seconds,
    (isAmount_of_parseMeasurement houtput).mono (by decide)⟩

theorem isAmount_of_readings_eq {routine : String} {answers : List (Except BenchError Invocation)}
    {measurements : List Measurement}
    (h : answers.mapM (measurementOf routine) = .ok measurements) :
    ∀ m ∈ measurements, m.real.IsAmount 65 ∧ m.user.IsAmount 65 := by
  intro m hm
  have hmem : (Except.ok m : Except BenchError Measurement) ∈ measurements.map .ok :=
    List.mem_map_of_mem hm
  rw [← mapM_eq_ok_iff.mp h] at hmem
  obtain ⟨answer, -, hanswer⟩ := List.mem_map.mp hmem
  exact isAmount_of_measurementOf hanswer

/-! ### What is computed -/

/-- Any number of amounts is reduced to an amount. -/
theorem Statistic.isAmount_reduce (statistic : Statistic) {k : Nat} {xs : List Binary64}
    (h : ∀ x ∈ xs, x.IsAmount k) (hk : k + 53 < 1024) :
    (statistic.reduce xs).IsAmount (k + 53) := by
  unfold reduce
  split
  · rw [Binary64.zero_eq]
    exact Binary64.isAmount_zero _
  · next hne =>
    cases statistic with
    | mean =>
      have hlength : 1 ≤ xs.length := List.length_pos_iff.mpr hne
      exact (Binary64.isAmount_sum hne h hk).div (Binary64.one_le_ofNat hlength) hk
    | min => exact (Binary64.isAmount_foldl_min hne h).mono (Nat.le_add_right k 53)

/-- The cost of one iteration is an amount. -/
theorem Samples.isAmount_aggregate {samples : Samples} {initTime : Binary64}
    (hreal : ∀ x ∈ samples.real, x.IsAmount 65) (huser : ∀ x ∈ samples.user, x.IsAmount 65)
    (hinit : initTime.IsAmount 118) (iterations : Nat) (statistic : Statistic) :
    ∀ x ∈ (samples.aggregate iterations initTime statistic).numbers, x.IsAmount 118 := by
  have hraw : (statistic.reduce samples.real).IsAmount 118 :=
    statistic.isAmount_reduce hreal (by decide)
  have hdivisor : 1 ≤ Binary64.ofNat (Nat.max iterations 1) :=
    Binary64.one_le_ofNat (Nat.le_max_right iterations 1)
  simp only [aggregate, CellResult.numbers, List.forall_mem_cons]
  refine ⟨hraw, (hraw.max_sub hinit (by decide)).div hdivisor (by decide), ?_,
    List.forall_mem_nil _⟩
  exact (statistic.isAmount_reduce huser (by decide)).div hdivisor (by decide)

/-! ### The startup overhead -/

section Session

variable {σ : Type} {invoker : Invoker σ} {runtime : Runtime}

theorem isAmount_of_collectStartups {repetitions : Nat} {times times' : List Binary64}
    {state : SessionState σ} (htimes : ∀ x ∈ times, x.IsAmount 65)
    (h : (collectStartups invoker runtime repetitions times state).result = .ok times') :
    ∀ x ∈ times', x.IsAmount 65 := by
  induction repetitions generalizing times state with
  | zero =>
    cases h
    exact htimes
  | succ repetitions ih =>
    have hfirst := Session.examine_apply invoker runtime .startup (Invocation.startupTime runtime)
      state
    rw [collectStartups_succ] at h
    cases htime : (invoker (Purpose.startup.args runtime) state.invoker).1 >>=
        Invocation.startupTime runtime with
    | error e =>
      rw [htime] at hfirst
      rw [Session.bind_of_apply_error hfirst] at h
      cases h
    | ok time =>
      rw [htime] at hfirst
      rw [Session.bind_of_apply_ok hfirst] at h
      have htime : time.IsAmount 65 := by
        obtain ⟨invocation, -, htime⟩ := bind_eq_ok_iff.mp htime
        obtain ⟨_, -, htime⟩ := bind_eq_ok_iff.mp htime
        rw [← Except.ok.inj htime]
        exact invocation.elapsed.isAmount_seconds
      refine ih (fun x hx => ?_) h
      rcases List.mem_append.mp hx with hx | hx
      · exact htimes x hx
      · exact List.mem_singleton.mp hx ▸ htime

/-- The startup overhead is an amount. -/
theorem isAmount_of_calibrate {settings : Settings} {state : SessionState σ} {initTime : Binary64}
    (h : (calibrate invoker runtime settings state).result = .ok initTime) :
    initTime.IsAmount 118 := by
  rw [calibrate, Session.bind_pure_apply] at h
  cases htimes : (collectStartups invoker runtime settings.repetitions [] state).result with
  | error e =>
    rw [htimes] at h
    cases h
  | ok times =>
    rw [htimes, Except.map, Except.ok.injEq] at h
    have htimes := isAmount_of_collectStartups (List.forall_mem_nil _) htimes
    rw [← h]
    exact settings.statistic.isAmount_reduce htimes (by decide)

end Session

/-! ### The cells -/

namespace Bench.Finished

variable {σ : Type} {b : Bench σ} (f : b.Finished)

/-- The numbers of a measured cell are amounts. -/
theorem isAmount_numbers (hinit : b.initTime.IsAmount 118) :
    ∀ x ∈ f.result.numbers, x.IsAmount 118 := by
  have hmeasurement := isAmount_of_readings_eq f.readings_eq
  refine Samples.isAmount_aggregate ?_ ?_ hinit _ _
  · exact List.forall_mem_map.mpr fun m hm => (hmeasurement m hm).1
  · exact List.forall_mem_map.mpr fun m hm => (hmeasurement m hm).2

/-- A measured cell takes no less than the startup overhead, if the threshold is no less. -/
theorem initTime_le (hinit : b.initTime.IsAmount 118) (hfactor : 1 ≤ b.settings.swampFactor)
    (hfinite : b.settings.swampFactor.isFinite = true) : b.initTime ≤ f.result.rawReal :=
  Binary64.le_trans (hinit.le_mul hfactor hfinite) f.clear

end Bench.Finished

section Run

variable {σ : Type} {plan : Plan} {invoker : Invoker σ} {capabilities : Capabilities}
  {settings : Settings}

/-- **The numbers of a finished run.** The startup overhead and the numbers of every cell are finite
and not negative, so no number of the document is written as `null` and every cell of a table is a
natural number of microseconds. If the swamp factor is at least one, then no cell takes less than
the startup overhead, and what is reported is the difference and not the zero that it is kept
above. -/
theorem run_numbers (hplan : plan.Accepted) (hfinite : settings.swampFactor.isFinite = true) {s : σ}
    {report : RunReport}
    (h : (run plan invoker capabilities settings (plan.start s)).result = .ok report) :
    (report.initTime.isFinite = true ∧ 0 ≤ report.initTime) ∧
    (∀ routine size result, report.matrix.get? routine size = some result →
      (∀ x ∈ result.numbers, x.isFinite = true ∧ 0 ≤ x) ∧
      (∃ n, wholeMicroseconds result.realPerIteration = numeral n ++ "us") ∧
      (∃ n, wholeMicroseconds result.userPerIteration = numeral n ++ "us") ∧
      (1 ≤ settings.swampFactor → report.initTime ≤ result.rawReal ∧
        result.realPerIteration = (result.rawReal - report.initTime) /
          Binary64.ofNat (Nat.max result.iterations 1))) ∧
    ∀ (context : ReportContext) (now : Timestamp), context.initTime = report.initTime →
      context.swampFactor = settings.swampFactor →
      ∀ x ∈ (reportDocument context report.matrix now).numbers,
        Json.numberText x ≠ "null".toList := by
  have hinit : report.initTime.IsAmount 118 := isAmount_of_calibrate (calibrate_of_run_eq_ok h)
  have hcourse := run_course invoker settings capabilities hplan s
  simp only [h] at hcourse
  obtain ⟨answers, steps, htasks, hmatrix, -, -⟩ := hcourse.exists_steps
  have hcell (routine : String) (size : Nat) (result : CellResult)
      (hget : report.matrix.get? routine size = some result) :
      ∃ f ∈ Bench.finishedOf steps, f.result = result := by
    rw [hmatrix] at hget
    obtain ⟨f, hf, -, hresult⟩ := (Bench.get?_foldl_enter_iff hplan.wellFormed htasks).mp hget
    exact ⟨f, hf, hresult⟩
  refine ⟨⟨hinit.isFinite, hinit.nonneg⟩, fun routine size result hget => ?_,
    fun context now hcontext hfactor x hx => ?_⟩
  · obtain ⟨f, -, rfl⟩ := hcell routine size result hget
    have hamounts := f.isAmount_numbers hinit
    have hreal := hamounts f.result.realPerIteration (by simp [CellResult.numbers])
    have huser := hamounts f.result.userPerIteration (by simp [CellResult.numbers])
    refine ⟨fun x hx => ⟨(hamounts x hx).isFinite, (hamounts x hx).nonneg⟩,
      hreal.exists_wholeMicroseconds (by decide), huser.exists_wholeMicroseconds (by decide),
      fun hone => ?_⟩
    have hraw := hamounts f.result.rawReal (by simp [CellResult.numbers])
    have hle := f.initTime_le hinit hone hfinite
    refine ⟨hle, ?_⟩
    change Binary64.max (f.result.rawReal - report.initTime) 0 / _ = _
    rw [(hraw.sub hinit hle (by decide)).max_zero]
    rfl
  · rw [ne_eq, Json.numberText_eq_null_iff, Bool.not_eq_false]
    rw [numbers_reportDocument, hcontext, hfactor, List.mem_cons, List.mem_cons,
      List.mem_flatMap] at hx
    rcases hx with rfl | rfl | ⟨row, hrow, hx⟩
    · exact hinit.isFinite
    · exact hfinite
    · obtain ⟨entry, hentry, hx⟩ := List.mem_flatMap.mp hx
      have hget := ResultsMatrix.get?_eq_some_iff.mpr ⟨row.2, hrow, hentry⟩
      obtain ⟨f, -, hresult⟩ := hcell row.1 entry.1 entry.2 hget
      rw [← hresult] at hx
      exact (f.isAmount_numbers hinit x hx).isFinite

/-- A run whose cells are free of the startup overhead. -/
theorem run_numbers_samplePlan :
    let settings : Settings := { repetitions := 1 }
    let outcome := run samplePlan sampleInvoker {} settings (samplePlan.start ())
    ∃ report, outcome.result = .ok report ∧ report.initTime.isFinite = true ∧
      ∃ result, report.matrix.get? "a" 8 = some result ∧
        (∃ n, wholeMicroseconds result.realPerIteration = numeral n ++ "us") ∧
        report.initTime ≤ result.rawReal := by
  intro settings outcome
  have hcell : (outcome.result.toOption.bind fun report =>
      report.matrix.get? "a" 8).isSome = true := by decide +kernel
  have hfinite : settings.swampFactor.isFinite = true := by decide +kernel
  have hone : 1 ≤ settings.swampFactor := by decide +kernel
  cases h : outcome.result with
  | error e =>
    rw [h] at hcell
    cases hcell
  | ok report =>
    rw [h] at hcell
    obtain ⟨result, hget⟩ := Option.isSome_iff_exists.mp hcell
    have hget : report.matrix.get? "a" 8 = some result := hget
    obtain ⟨⟨hinit, -⟩, hcells, -⟩ := run_numbers samplePlan_accepted hfinite h
    obtain ⟨-, htext, -, hraw⟩ := hcells "a" 8 result hget
    exact ⟨report, rfl, hinit, result, hget, htext, (hraw hone).1⟩

end Run

end RoutineTiming
