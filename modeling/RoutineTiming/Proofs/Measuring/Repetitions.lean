import RoutineTiming.Proofs.Measuring.Launches

/-!
# All repetitions of a measurement

A measurement makes the same call several times. It succeeds when every answer gives a measurement,
and its samples are then those of all answers; it fails with the first answer that gives none. What
happens is settled by the answers alone.

## Main definitions

* `Samples.of` : the samples of several measurements.
* `launchLog` : what happens while a routine is launched again and again.

## Main results

* `Samples.foldl_push` : samples collected one by one.
* `collectSamples_of_ok`, `collectSamples_of_error` : all repetitions.
* `launchLog_purposes`, `launchLog_answers` : a log has a launch for each answer if none fails.
* `exists_launchLog_of_error` : a log ends with the first answer that fails.
-/

namespace RoutineTiming

/-- The samples of several measurements. Their value is the one that was printed last. -/
def Samples.of (measurements : List Measurement) : Samples where
  real := measurements.map Measurement.real
  user := measurements.map Measurement.user
  lastValue := (measurements.getLast?.map Measurement.value).getD ""

theorem Samples.foldl_push (measurements : List Measurement) (samples : Samples) :
    measurements.foldl push samples =
      ⟨samples.real ++ measurements.map Measurement.real,
        samples.user ++ measurements.map Measurement.user,
        (measurements.getLast?.map Measurement.value).getD samples.lastValue⟩ := by
  induction measurements generalizing samples with
  | nil => simp
  | cons m rest ih =>
    rw [List.foldl_cons, ih, List.getLast?_cons, push]
    cases rest.getLast? <;> simp

theorem Samples.foldl_push_empty (measurements : List Measurement) :
    measurements.foldl push {} = of measurements := by
  rw [foldl_push]
  rfl

/-- What happens while a routine is launched with given answers: the diagnostic lines of each
answer follow it, and nothing follows an answer that gives no measurement. -/
def launchLog (routine : String) (purpose : Purpose) (args : List String) :
    List (Except BenchError Invocation) → List Event
  | [] => []
  | answer :: rest =>
    .launched purpose args answer ::
      match measurementOf routine answer with
      | .error _ => []
      | .ok m => m.diagnostics.map (fun line => .noticed (.diagnostic line)) ++
          launchLog routine purpose args rest

section Log

variable {routine : String} {purpose : Purpose} {args : List String}

theorem launchLog_cons_of_ok {answer : Except BenchError Invocation} {m : Measurement}
    (h : measurementOf routine answer = .ok m) (rest : List (Except BenchError Invocation)) :
    launchLog routine purpose args (answer :: rest) =
      .launched purpose args answer ::
        ((m.diagnostics.map Notice.diagnostic).map .noticed ++
          launchLog routine purpose args rest) := by
  rw [launchLog, h, List.map_map]
  rfl

theorem launchLog_cons_of_error {answer : Except BenchError Invocation} {e : BenchError}
    (h : measurementOf routine answer = .error e) (rest : List (Except BenchError Invocation)) :
    launchLog routine purpose args (answer :: rest) = [.launched purpose args answer] := by
  rw [launchLog, h]

/-- A log holds nothing but launches and diagnostic lines. -/
theorem mem_launchLog {answers : List (Except BenchError Invocation)} {event : Event}
    (h : event ∈ launchLog routine purpose args answers) :
    (∃ answer, event = .launched purpose args answer) ∨
      ∃ line, event = .noticed (.diagnostic line) := by
  induction answers with
  | nil => cases h
  | cons answer rest ih =>
    cases hm : measurementOf routine answer with
    | error e =>
      rw [launchLog_cons_of_error hm] at h
      exact .inl ⟨answer, List.mem_singleton.mp h⟩
    | ok m =>
      rw [launchLog_cons_of_ok hm, List.mem_cons, List.mem_append, List.map_map, List.mem_map] at h
      rcases h with rfl | ⟨line, -, rfl⟩ | h
      · exact .inl ⟨answer, rfl⟩
      · exact .inr ⟨line, rfl⟩
      · exact ih h

/-- If all answers give measurements, there is a launch for each of them. -/
theorem launchLog_purposes {answers : List (Except BenchError Invocation)}
    {measurements : List Measurement}
    (h : answers.mapM (measurementOf routine) = .ok measurements) :
    (launchLog routine purpose args answers).filterMap Event.purpose? =
      List.replicate answers.length purpose := by
  induction answers generalizing measurements with
  | nil => rfl
  | cons answer rest ih =>
    obtain ⟨m, ms, hm, hms, -⟩ := mapM_cons_eq_ok_iff.mp h
    rw [launchLog_cons_of_ok hm, List.filterMap_cons, List.filterMap_append,
      filterMap_purpose?_noticed, ih hms]
    rfl

/-- There is never a launch for more than the answers. -/
theorem prefix_launchLog_purposes (answers : List (Except BenchError Invocation)) :
    (launchLog routine purpose args answers).filterMap Event.purpose? <+:
      List.replicate answers.length purpose := by
  induction answers with
  | nil => exact List.prefix_rfl
  | cons answer rest ih =>
    rw [List.length_cons, List.replicate_succ]
    cases h : measurementOf routine answer with
    | error e =>
      rw [launchLog_cons_of_error h]
      exact (List.prefix_cons_inj purpose).mpr (List.nil_prefix)
    | ok m =>
      rw [launchLog_cons_of_ok h, List.filterMap_cons, List.filterMap_append,
        filterMap_purpose?_noticed]
      exact (List.prefix_cons_inj purpose).mpr ih

/-- If all answers give measurements, they all stand in the log. -/
theorem launchLog_answers {answers : List (Except BenchError Invocation)}
    {measurements : List Measurement}
    (h : answers.mapM (measurementOf routine) = .ok measurements) :
    (launchLog routine purpose args answers).filterMap Event.answer? = answers := by
  induction answers generalizing measurements with
  | nil => rfl
  | cons answer rest ih =>
    obtain ⟨m, ms, hm, hms, -⟩ := mapM_cons_eq_ok_iff.mp h
    rw [launchLog_cons_of_ok hm, List.filterMap_cons, List.filterMap_append,
      filterMap_answer?_noticed, ih hms]
    rfl

variable (purpose args) in
/-- If an answer gives no measurement, the log ends with the first such answer. -/
theorem exists_launchLog_of_error {answers : List (Except BenchError Invocation)} {e : BenchError}
    (h : answers.mapM (measurementOf routine) = .error e) :
    ∃ front answer, launchLog routine purpose args answers =
      front ++ [.launched purpose args answer] ∧ measurementOf routine answer = .error e := by
  induction answers with
  | nil => cases h
  | cons answer rest ih =>
    rcases mapM_cons_eq_error_iff.mp h with he | ⟨m, hm, hrest⟩
    · exact ⟨[], answer, launchLog_cons_of_error he rest, he⟩
    · obtain ⟨front, answer', hlog, he⟩ := ih hrest
      refine ⟨.launched purpose args answer ::
        ((m.diagnostics.map Notice.diagnostic).map .noticed ++ front), answer', ?_, he⟩
      rw [launchLog_cons_of_ok hm, hlog, List.cons_append, List.append_assoc]

end Log

/-! ### The session of all repetitions -/

section Session

variable {σ : Type} (invoker : Invoker σ) (runtime : Runtime) (routine : String)
  (size iterations : Nat)

theorem measureOnce_apply (s : σ) (table : IterationTable) :
    measureOnce invoker runtime routine size iterations ⟨s, table⟩ =
      let args := (Purpose.measurement routine size iterations).args runtime
      ⟨measurementOf routine (invoker args s).1, ⟨(invoker args s).2, table⟩,
        [.launched (.measurement routine size iterations) args (invoker args s).1]⟩ := by
  rw [measureOnce_eq_examine, Session.examine_apply]
  rfl

variable {invoker runtime routine size iterations}

/-- An answer that gives a measurement is followed by the other repetitions. -/
theorem collectSamples_succ_of_ok {repetitions : Nat} {samples : Samples} {s : σ}
    {table : IterationTable} {args : List String} {m : Measurement}
    (hargs : (Purpose.measurement routine size iterations).args runtime = args)
    (h : measurementOf routine (invoker args s).1 = .ok m) :
    collectSamples invoker runtime routine size iterations (repetitions + 1) samples ⟨s, table⟩ =
      let rest := collectSamples invoker runtime routine size iterations repetitions
        (samples.push m) ⟨(invoker args s).2, table⟩
      ⟨rest.result, rest.state,
        .launched (.measurement routine size iterations) args (invoker args s).1 ::
          ((m.diagnostics.map Notice.diagnostic).map .noticed ++ rest.events)⟩ := by
  have hfirst := measureOnce_apply invoker runtime routine size iterations s table
  simp only [hargs, h] at hfirst
  rw [collectSamples, Session.bind_of_apply_ok hfirst,
    Session.bind_of_apply_ok (Session.notifyAll_apply _ _)]
  rfl

/-- An answer that gives no measurement ends the repetitions. -/
theorem collectSamples_succ_of_error {repetitions : Nat} {samples : Samples} {s : σ}
    {table : IterationTable} {args : List String} {e : BenchError}
    (hargs : (Purpose.measurement routine size iterations).args runtime = args)
    (h : measurementOf routine (invoker args s).1 = .error e) :
    collectSamples invoker runtime routine size iterations (repetitions + 1) samples ⟨s, table⟩ =
      ⟨.error e, ⟨(invoker args s).2, table⟩,
        [.launched (.measurement routine size iterations) args (invoker args s).1]⟩ := by
  have hfirst := measureOnce_apply invoker runtime routine size iterations s table
  simp only [hargs, h] at hfirst
  rw [collectSamples, Session.bind_of_apply_error hfirst]

/-- Answers that all give measurements are all collected. -/
theorem collectSamples_of_ok {repetitions : Nat} (samples : Samples) {s : σ}
    (table : IterationTable) {args : List String} {measurements : List Measurement}
    (hargs : (Purpose.measurement routine size iterations).args runtime = args)
    (h : (invoker.replies (List.replicate repetitions args) s).mapM (measurementOf routine) =
      .ok measurements) :
    collectSamples invoker runtime routine size iterations repetitions samples ⟨s, table⟩ =
      ⟨.ok (measurements.foldl Samples.push samples),
        ⟨invoker.after (List.replicate repetitions args) s, table⟩,
        launchLog routine (.measurement routine size iterations) args
          (invoker.replies (List.replicate repetitions args) s)⟩ := by
  induction repetitions generalizing samples s measurements with
  | zero =>
    cases h
    rfl
  | succ repetitions ih =>
    obtain ⟨m, ms, hm, hms, rfl⟩ := mapM_cons_eq_ok_iff.mp h
    rw [collectSamples_succ_of_ok hargs hm, ih _ hms, List.replicate_succ, Invoker.replies,
      launchLog_cons_of_ok hm]
    rfl

/-- The first answer that gives no measurement ends the repetitions. -/
theorem collectSamples_of_error {repetitions : Nat} (samples : Samples) {s : σ}
    (table : IterationTable) {args : List String} {e : BenchError}
    (hargs : (Purpose.measurement routine size iterations).args runtime = args)
    (h : (invoker.replies (List.replicate repetitions args) s).mapM (measurementOf routine) =
      .error e) :
    ∃ s', collectSamples invoker runtime routine size iterations repetitions samples ⟨s, table⟩ =
      ⟨.error e, ⟨s', table⟩, launchLog routine (.measurement routine size iterations) args
        (invoker.replies (List.replicate repetitions args) s)⟩ := by
  induction repetitions generalizing samples s with
  | zero => cases h
  | succ repetitions ih =>
    rw [List.replicate_succ, Invoker.replies]
    rcases mapM_cons_eq_error_iff.mp h with he | ⟨m, hm, hms⟩
    · rw [collectSamples_succ_of_error hargs he, launchLog_cons_of_error he]
      exact ⟨_, rfl⟩
    · obtain ⟨s', hs'⟩ := ih _ hms
      rw [collectSamples_succ_of_ok hargs hm, hs', launchLog_cons_of_ok hm]
      exact ⟨s', rfl⟩

end Session

end RoutineTiming
