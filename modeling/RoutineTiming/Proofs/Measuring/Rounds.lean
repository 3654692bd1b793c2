import RoutineTiming.Proofs.IterationCount
import RoutineTiming.Proofs.Measuring.Repetitions
import RoutineTiming.Proofs.Plan.Cells

/-!
# Rounds at doubled counts

A cell is measured in rounds. Round `k` makes all repetitions at the first count doubled `k` times,
and goes on in the state that the round before it left the invoker in. The samples of a swamped
round are thrown away. The rounds end with the first one that is not swamped, at the last count, or
with the first answer that gives no measurement.

## Main definitions

* `swampedNotice` : the warning between two rounds.
* `Rounds` : what settles the rounds of a cell.
* `Rounds.readings` : the measurements of a round.
* `Rounds.Reached`, `Rounds.Ends` : the rounds that are made, and how the last one ends.
* `Rounds.events` : what happens up to the end of a round.
* `Rounds.Makes` : the outcome of a measurement that makes the rounds up to a given one.

## Main results

* `measureUpTo_of_error`, `measureUpTo_of_clear`, `measureUpTo_of_last`, `measureUpTo_of_more` :
  what comes after a round.
* `Rounds.Reached.unique` : only one round is the last one.
* `Rounds.Reached.le_min` : how many rounds there can be.
* `Rounds.exists_makes` : a measurement makes the rounds of its cell.
* `Rounds.result_eq_ok_iff` : the rounds that a measurement ends with.
* `measureAdaptive_makes_rounds` : the outcome of a measurement.
-/

namespace RoutineTiming

/-! ### What comes after a round -/

section Round

variable {σ : Type} {invoker : Invoker σ} {runtime : Runtime} {settings : Settings}
  {initTime threshold : Binary64} {routine : String} {size doublings : Nat}
  {state state' : SessionState σ} {events : List Event} {result : CellResult}

theorem measureUpTo_of_error {e : BenchError}
    (h : measureRound invoker runtime settings initTime routine size state =
      ⟨.error e, state', events⟩) :
    measureUpTo invoker runtime settings initTime threshold routine size doublings state =
      ⟨.error e, state', events⟩ := by
  cases doublings <;> rw [measureUpTo, Session.bind_of_apply_error h]

theorem measureUpTo_of_clear
    (h : measureRound invoker runtime settings initTime routine size state =
      ⟨.ok result, state', events⟩) (hclear : threshold ≤ result.rawReal) :
    measureUpTo invoker runtime settings initTime threshold routine size doublings state =
      ⟨.ok result, state', events⟩ := by
  cases doublings <;>
    rw [measureUpTo, Session.bind_of_apply_ok h, if_pos hclear, Session.pure_apply,
      List.append_nil]

theorem measureUpTo_of_last
    (h : measureRound invoker runtime settings initTime routine size state =
      ⟨.ok result, state', events⟩) (hswamped : ¬ threshold ≤ result.rawReal)
    (hlast : doublings = 0 ∨ doubled result.iterations ≤ result.iterations) :
    measureUpTo invoker runtime settings initTime threshold routine size doublings state =
      ⟨.error (notConverged routine size result), state', events⟩ := by
  cases doublings with
  | zero =>
    rw [measureUpTo, Session.bind_of_apply_ok h, if_neg hswamped, Session.fail_apply,
      List.append_nil]
  | succ doublings =>
    rw [measureUpTo, Session.bind_of_apply_ok h, if_neg hswamped,
      if_pos (hlast.resolve_left (Nat.succ_ne_zero _)), Session.fail_apply, List.append_nil]

/-- The warning that a swamped round is made again. -/
def swampedNotice (routine : String) (size : Nat) (initTime : Binary64) (result : CellResult) :
    Event :=
  .noticed (.swamped routine size result.rawReal initTime (doubled result.iterations))

theorem measureUpTo_of_more
    (h : measureRound invoker runtime settings initTime routine size state =
      ⟨.ok result, state', events⟩) (hswamped : ¬ threshold ≤ result.rawReal)
    (hmore : ¬ doubled result.iterations ≤ result.iterations) :
    measureUpTo invoker runtime settings initTime threshold routine size (doublings + 1) state =
      let rest := measureUpTo invoker runtime settings initTime threshold routine size doublings
        ⟨state'.invoker, state'.table.double routine size⟩
      ⟨rest.result, rest.state,
        events ++ swampedNotice routine size initTime result :: rest.events⟩ := by
  rw [measureUpTo, Session.bind_of_apply_ok h, if_neg hswamped, if_neg hmore]
  rfl

end Round

/-! ### The rounds of a cell -/

/-- What settles the rounds of a cell: the invoker and its state before the first round, how
measurements are made, and the cell. -/
structure Rounds (σ : Type) where
  invoker : Invoker σ
  runtime : Runtime
  settings : Settings
  initTime : Binary64
  cell : Cell
  start : σ

namespace Rounds

variable {σ : Type} (r : Rounds σ)

/-- The iteration count of a round. -/
def iterations (k : Nat) : Nat := doubledTimes r.cell.count k

/-- What the launches of a round are for. -/
def purpose (k : Nat) : Purpose := .measurement r.cell.routine r.cell.size (r.iterations k)

/-- The calls of a round. -/
def calls (k : Nat) : List (List String) :=
  List.replicate r.settings.repetitions ((r.purpose k).args r.runtime)

/-- The state of the invoker before a round. -/
def before : Nat → σ
  | 0 => r.start
  | k + 1 => r.invoker.after (r.calls k) (before k)

/-- The answers to the calls of a round. -/
def answers (k : Nat) : List (Except BenchError Invocation) :=
  r.invoker.replies (r.calls k) (r.before k)

/-- The measurements of a round, or the error of its first answer that gives none. -/
def readings (k : Nat) : Except BenchError (List Measurement) :=
  (r.answers k).mapM (measurementOf r.cell.routine)

/-- The real time of the measurements of one round. -/
def rawReal (measurements : List Measurement) : Binary64 :=
  r.settings.statistic.reduce (measurements.map Measurement.real)

/-- The least real time of a round that is not swamped. -/
def threshold : Binary64 := r.settings.swampFactor * r.initTime

/-- The result that the measurements of a round give. -/
def result (k : Nat) (measurements : List Measurement) : CellResult :=
  (Samples.of measurements).aggregate (r.iterations k) r.initTime r.settings.statistic

/-- The round succeeds, but its real time is below the threshold. -/
def Swamped (k : Nat) : Prop :=
  ∃ measurements, r.readings k = .ok measurements ∧ ¬ r.threshold ≤ r.rawReal measurements

/-- No round comes after this one. -/
def Last (k : Nat) : Prop :=
  k = r.settings.maxDoublings ∨ r.iterations (k + 1) ≤ r.iterations k

/-- The round is made: all rounds before it are swamped and are not the last one. -/
def Reached (k : Nat) : Prop := ∀ j < k, r.Swamped j ∧ ¬ r.Last j

/-- How the last round ends. -/
inductive Ends (k : Nat) : Except BenchError CellResult → Prop
  | accepted {measurements : List Measurement} (hreadings : r.readings k = .ok measurements)
      (hclear : r.threshold ≤ r.rawReal measurements) : Ends k (.ok (r.result k measurements))
  | exhausted (hswamped : r.Swamped k) (hlast : r.Last k) :
      Ends k (.error (.noConvergence r.cell.routine r.cell.size (r.iterations k)))
  | failed {e : BenchError} (hreadings : r.readings k = .error e) : Ends k (.error e)

/-- What happens in a round. -/
def log (k : Nat) : List Event :=
  launchLog r.cell.routine (r.purpose k) ((r.purpose k).args r.runtime) (r.answers k)

/-- The warning after a swamped round. -/
def warning (k : Nat) : List Event :=
  match r.readings k with
  | .ok measurements => [.noticed (.swamped r.cell.routine r.cell.size (r.rawReal measurements)
      r.initTime (r.iterations (k + 1)))]
  | .error _ => []

/-- What happens up to the end of a round, if the rounds before it are swamped. -/
def events (k : Nat) : List Event :=
  ((List.range k).flatMap fun j => r.log j ++ r.warning j) ++ r.log k

variable {r}

theorem length_answers (k : Nat) : (r.answers k).length = r.settings.repetitions := by
  rw [answers, Invoker.length_replies, calls, List.length_replicate]

/-- The rounds give nothing but launches of the cell, diagnostic lines and warnings. -/
theorem mem_events {k : Nat} {event : Event} (h : event ∈ r.events k) :
    (∃ j answer, event = .launched (r.purpose j) ((r.purpose j).args r.runtime) answer) ∨
      (∃ line, event = .noticed (.diagnostic line)) ∨
      ∃ j rawReal, event = .noticed
        (.swamped r.cell.routine r.cell.size rawReal r.initTime (r.iterations (j + 1))) := by
  have hlog (j : Nat) (h : event ∈ r.log j) :
      (∃ j answer, event = .launched (r.purpose j) ((r.purpose j).args r.runtime) answer) ∨
        ∃ line, event = .noticed (.diagnostic line) :=
    (mem_launchLog h).imp_left fun ⟨answer, h⟩ => ⟨j, answer, h⟩
  rcases List.mem_append.mp h with h | h
  · obtain ⟨j, -, h⟩ := List.mem_flatMap.mp h
    rcases List.mem_append.mp h with h | h
    · exact (hlog j h).imp_right .inl
    · rw [warning] at h
      split at h
      · exact .inr (.inr ⟨j, _, List.mem_singleton.mp h⟩)
      · cases h
  · exact (hlog k h).imp_right .inl

/-! ### Which round is the last one -/

theorem swamped_iff {k : Nat} {measurements : List Measurement}
    (h : r.readings k = .ok measurements) :
    r.Swamped k ↔ ¬ r.threshold ≤ r.rawReal measurements := by
  constructor
  · rintro ⟨measurements', h', hswamped⟩
    rw [h] at h'
    cases h'
    exact hswamped
  · exact fun hswamped => ⟨measurements, h, hswamped⟩

theorem not_swamped_iff {k : Nat} {measurements : List Measurement}
    (h : r.readings k = .ok measurements) :
    ¬ r.Swamped k ↔ r.threshold ≤ r.rawReal measurements := by
  rw [swamped_iff h, not_not]

theorem not_swamped_of_error {k : Nat} {e : BenchError} (h : r.readings k = .error e) :
    ¬ r.Swamped k := by
  rintro ⟨measurements, h', -⟩
  rw [h] at h'
  cases h'

/-- How a round whose answers all give measurements can be the last one. -/
theorem ends_iff_of_ok {k : Nat} {measurements : List Measurement}
    {result : Except BenchError CellResult} (h : r.readings k = .ok measurements) :
    r.Ends k result ↔
      (¬ r.Swamped k ∧ result = .ok (r.result k measurements)) ∨
      (r.Swamped k ∧ r.Last k ∧
        result = .error (.noConvergence r.cell.routine r.cell.size (r.iterations k))) := by
  constructor
  · rintro (⟨h', hclear⟩ | ⟨hswamped, hlast⟩ | h')
    · rw [h] at h'
      cases h'
      exact .inl ⟨(not_swamped_iff h).mpr hclear, rfl⟩
    · exact .inr ⟨hswamped, hlast, rfl⟩
    · rw [h] at h'
      cases h'
  · rintro (⟨hclear, rfl⟩ | ⟨hswamped, hlast, rfl⟩)
    · exact .accepted h ((not_swamped_iff h).mp hclear)
    · exact .exhausted hswamped hlast

theorem ends_iff_of_error {k : Nat} {e : BenchError} {result : Except BenchError CellResult}
    (h : r.readings k = .error e) : r.Ends k result ↔ result = .error e := by
  constructor
  · rintro (⟨h', -⟩ | ⟨hswamped, -⟩ | h')
    · rw [h] at h'
      cases h'
    · exact absurd hswamped (not_swamped_of_error h)
    · rw [h] at h'
      cases h'
      rfl
  · rintro rfl
    exact .failed h

theorem Ends.swamped_imp_last {k : Nat} {result : Except BenchError CellResult}
    (h : r.Ends k result) (hswamped : r.Swamped k) : r.Last k := by
  have ⟨measurements, hreadings, _⟩ := hswamped
  rcases (ends_iff_of_ok hreadings).mp h with ⟨hnot, -⟩ | ⟨-, hlast, -⟩
  · exact absurd hswamped hnot
  · exact hlast

theorem Ends.result_unique {k : Nat} {result result' : Except BenchError CellResult}
    (h : r.Ends k result) (h' : r.Ends k result') : result = result' := by
  cases hreadings : r.readings k with
  | error e =>
    rw [(ends_iff_of_error hreadings).mp h, (ends_iff_of_error hreadings).mp h']
  | ok measurements =>
    rcases (ends_iff_of_ok hreadings).mp h with ⟨hnot, rfl⟩ | ⟨hswamped, -, rfl⟩ <;>
      rcases (ends_iff_of_ok hreadings).mp h' with ⟨hnot', rfl⟩ | ⟨hswamped', -, rfl⟩
    · rfl
    · exact absurd hswamped' hnot
    · exact absurd hswamped hnot'
    · rfl

theorem Ends.iterations_eq {k : Nat} {result : CellResult} (h : r.Ends k (.ok result)) :
    result.iterations = r.iterations k := by
  cases h
  rfl

/-- Only one round is the last one, and it ends in only one way. -/
theorem Reached.unique {k k' : Nat} {result result' : Except BenchError CellResult}
    (hreached : r.Reached k) (hends : r.Ends k result) (hreached' : r.Reached k')
    (hends' : r.Ends k' result') : k = k' ∧ result = result' := by
  have hk : k = k' := by
    by_contra hne
    rcases Nat.lt_or_gt_of_ne hne with hlt | hlt
    · exact (hreached' k hlt).2 (hends.swamped_imp_last (hreached' k hlt).1)
    · exact (hreached k' hlt).2 (hends'.swamped_imp_last (hreached k' hlt).1)
  subst hk
  exact ⟨rfl, hends.result_unique hends'⟩

/-! ### How many rounds there are -/

theorem Reached.le_maxDoublings {k : Nat} (h : r.Reached k) : k ≤ r.settings.maxDoublings := by
  by_contra hk
  exact (h r.settings.maxDoublings (by omega)).2 (.inl rfl)

/-- The count grows from round to round. -/
theorem Reached.iterations_lt {j k : Nat} (h : r.Reached k) (hj : j < k) :
    r.iterations j < r.iterations k := by
  induction k with
  | zero => exact absurd hj (Nat.not_lt_zero j)
  | succ k ih =>
    have hgrows : r.iterations k < r.iterations (k + 1) :=
      Nat.lt_of_not_le fun hle => (h k (Nat.lt_succ_self k)).2 (.inr hle)
    rcases Nat.lt_succ_iff_lt_or_eq.mp hj with hj | rfl
    · exact Nat.lt_trans (ih (fun i hi => h i (Nat.lt_succ_of_lt hi)) hj) hgrows
    · exact hgrows

theorem Reached.le_of_count {k : Nat} (h : r.Reached k) : k ≤ 64 := by
  cases k with
  | zero => exact Nat.zero_le _
  | succ k =>
    have hgrows := h.iterations_lt (Nat.lt_succ_self k)
    refine lt_of_doubledTimes_lt (fun hzero => ?_) hgrows
    rw [iterations, iterations, doubledTimes, doubledTimes, hzero, Nat.zero_mul,
      Nat.zero_mul] at hgrows
    exact Nat.lt_irrefl _ hgrows

/-- A count of 64 bits cannot be doubled more than 64 times, and no count is doubled more often than
the settings allow. -/
theorem Reached.le_min {k : Nat} (h : r.Reached k) : k ≤ min r.settings.maxDoublings 64 :=
  Nat.le_min.mpr ⟨h.le_maxDoublings, h.le_of_count⟩

/-! ### What happens in the rounds -/

theorem args_purpose (k : Nat) :
    (Purpose.measurement r.cell.routine r.cell.size (r.iterations k)).args r.runtime =
      (r.purpose k).args r.runtime := rfl

theorem measureRound_of_ok {k : Nat} {table : IterationTable} {measurements : List Measurement}
    (hcount : table.get? r.cell.routine r.cell.size = some (r.iterations k))
    (h : r.readings k = .ok measurements) :
    measureRound r.invoker r.runtime r.settings r.initTime r.cell.routine r.cell.size
      ⟨r.before k, table⟩ =
        ⟨.ok (r.result k measurements), ⟨r.before (k + 1), table⟩, r.log k⟩ := by
  have hsamples := collectSamples_of_ok {} table (r.args_purpose k) h
  rw [measureRound_of_some _ _ _ _ hcount,
    Session.bind_of_apply_ok hsamples, Samples.foldl_push_empty]
  simp only [Session.pure_apply, List.append_nil]
  rfl

theorem measureRound_of_error {k : Nat} {table : IterationTable} {e : BenchError}
    (hcount : table.get? r.cell.routine r.cell.size = some (r.iterations k))
    (h : r.readings k = .error e) :
    ∃ s, measureRound r.invoker r.runtime r.settings r.initTime r.cell.routine r.cell.size
      ⟨r.before k, table⟩ = ⟨.error e, ⟨s, table⟩, r.log k⟩ := by
  obtain ⟨s, hs⟩ := collectSamples_of_error {} table (r.args_purpose k) h
  refine ⟨s, ?_⟩
  rw [measureRound_of_some _ _ _ _ hcount, Session.bind_of_apply_error hs]
  rfl

/-- The table after some rounds. -/
def doubledTable (r : Rounds σ) (table : IterationTable) (k : Nat) : IterationTable :=
  (fun t : IterationTable => t.double r.cell.routine r.cell.size)^[k] table

theorem get?_doubledTable {table : IterationTable}
    (hcount : table.get? r.cell.routine r.cell.size = some r.cell.count)
    (hword : r.cell.count ≤ maxWord) (k : Nat) (routine : String) (size : Nat) :
    (r.doubledTable table k).get? routine size =
      if routine = r.cell.routine ∧ size = r.cell.size then some (r.iterations k)
      else table.get? routine size :=
  IterationTable.get?_iterate_double table hcount hword k routine size

section Step

variable {table : IterationTable} {k doublings : Nat}

/-- The measurement from a round on, with a number of doublings left. -/
def measure (r : Rounds σ) (doublings : Nat) : Session σ CellResult :=
  measureUpTo r.invoker r.runtime r.settings r.initTime r.threshold r.cell.routine r.cell.size
    doublings

theorem measure_of_error {e : BenchError}
    (hcount : table.get? r.cell.routine r.cell.size = some (r.iterations k))
    (h : r.readings k = .error e) :
    ∃ s, r.measure doublings ⟨r.before k, table⟩ = ⟨.error e, ⟨s, table⟩, r.log k⟩ := by
  obtain ⟨s, hs⟩ := measureRound_of_error hcount h
  exact ⟨s, measureUpTo_of_error hs⟩

theorem measure_of_clear {measurements : List Measurement}
    (hcount : table.get? r.cell.routine r.cell.size = some (r.iterations k))
    (h : r.readings k = .ok measurements) (hclear : r.threshold ≤ r.rawReal measurements) :
    r.measure doublings ⟨r.before k, table⟩ =
      ⟨.ok (r.result k measurements), ⟨r.before (k + 1), table⟩, r.log k⟩ :=
  measureUpTo_of_clear (measureRound_of_ok hcount h) hclear

theorem measure_of_last {measurements : List Measurement}
    (hcount : table.get? r.cell.routine r.cell.size = some (r.iterations k))
    (h : r.readings k = .ok measurements) (hswamped : ¬ r.threshold ≤ r.rawReal measurements)
    (hlast : doublings = 0 ∨ r.iterations (k + 1) ≤ r.iterations k) :
    r.measure doublings ⟨r.before k, table⟩ =
      ⟨.error (.noConvergence r.cell.routine r.cell.size (r.iterations k)),
        ⟨r.before (k + 1), table⟩, r.log k⟩ := by
  rw [iterations, ← doubled_doubledTimes] at hlast
  exact measureUpTo_of_last (measureRound_of_ok hcount h) hswamped hlast

theorem measure_of_more {measurements : List Measurement}
    (hcount : table.get? r.cell.routine r.cell.size = some (r.iterations k))
    (h : r.readings k = .ok measurements) (hswamped : ¬ r.threshold ≤ r.rawReal measurements)
    (hmore : ¬ r.iterations (k + 1) ≤ r.iterations k) :
    r.measure (doublings + 1) ⟨r.before k, table⟩ =
      let rest := r.measure doublings
        ⟨r.before (k + 1), table.double r.cell.routine r.cell.size⟩
      ⟨rest.result, rest.state, r.log k ++ r.warning k ++ rest.events⟩ := by
  have hwarning : r.warning k =
      [swampedNotice r.cell.routine r.cell.size r.initTime (r.result k measurements)] := by
    rw [warning, h, iterations, ← doubled_doubledTimes]
    rfl
  rw [iterations, ← doubled_doubledTimes] at hmore
  rw [measure, measureUpTo_of_more (measureRound_of_ok hcount h) hswamped hmore, hwarning]
  simp only [List.append_assoc, List.singleton_append]
  rfl

end Step

/-- The outcome of a measurement whose last round is round `m`. -/
structure Makes (r : Rounds σ) (table : IterationTable) (m : Nat) (outcome : Outcome σ CellResult) :
    Prop where
  reached : r.Reached m
  ends : r.Ends m outcome.result
  table_eq : outcome.state.table = r.doubledTable table m
  events_eq : outcome.events = r.events m
  invoker_eq : ∀ a, outcome.result = .ok a → outcome.state.invoker = r.before (m + 1)

/-- A round that is reached and not followed by another one is the last one. -/
theorem makes_of_stops {table : IterationTable} {doublings k : Nat}
    (hcount : (r.doubledTable table k).get? r.cell.routine r.cell.size = some (r.iterations k))
    (hk : k + doublings = r.settings.maxDoublings) (hreached : r.Reached k)
    (hstops : r.Swamped k → doublings = 0 ∨ r.iterations (k + 1) ≤ r.iterations k) :
    let outcome := r.measure doublings ⟨r.before k, r.doubledTable table k⟩
    r.Makes table k ⟨outcome.result, outcome.state,
      ((List.range k).flatMap fun j => r.log j ++ r.warning j) ++ outcome.events⟩ := by
  cases hreadings : r.readings k with
  | error e =>
    obtain ⟨s, hs⟩ := measure_of_error hcount hreadings
    rw [hs]
    exact ⟨hreached, .failed hreadings, rfl, rfl, fun a ha => by cases ha⟩
  | ok measurements =>
    by_cases hclear : r.threshold ≤ r.rawReal measurements
    · rw [measure_of_clear hcount hreadings hclear]
      exact ⟨hreached, .accepted hreadings hclear, rfl, rfl, fun _ _ => rfl⟩
    · have hswamped := (swamped_iff hreadings).mpr hclear
      rw [measure_of_last hcount hreadings hclear (hstops hswamped)]
      have hlast : r.Last k := (hstops hswamped).imp (fun hzero => by omega) id
      exact ⟨hreached, .exhausted hswamped hlast, rfl, rfl, fun a ha => by cases ha⟩

/-- A measurement that has come to a round makes this round and those after it, up to the last
one. -/
theorem exists_makes_of_reached {table : IterationTable}
    (hcount : table.get? r.cell.routine r.cell.size = some r.cell.count)
    (hword : r.cell.count ≤ maxWord) (doublings k : Nat)
    (hk : k + doublings = r.settings.maxDoublings) (hreached : r.Reached k) :
    let outcome := r.measure doublings ⟨r.before k, r.doubledTable table k⟩
    ∃ m, r.Makes table m ⟨outcome.result, outcome.state,
      ((List.range k).flatMap fun j => r.log j ++ r.warning j) ++ outcome.events⟩ := by
  have hget (k : Nat) : (r.doubledTable table k).get? r.cell.routine r.cell.size =
      some (r.iterations k) := by
    rw [get?_doubledTable hcount hword, if_pos ⟨rfl, rfl⟩]
  -- The rounds before `k` are complete, so the induction is on the doublings that are left.
  induction doublings generalizing k with
  | zero => exact ⟨k, makes_of_stops (hget k) hk hreached fun _ => .inl rfl⟩
  | succ doublings ih =>
    by_cases hmore : r.Swamped k ∧ ¬ r.iterations (k + 1) ≤ r.iterations k
    · obtain ⟨hswamped, hmore⟩ := hmore
      have ⟨measurements, hreadings, hbelow⟩ := hswamped
      have hreached' : r.Reached (k + 1) := fun j hj => by
        rcases Nat.lt_succ_iff_lt_or_eq.mp hj with hj | rfl
        · exact hreached j hj
        · exact ⟨hswamped, fun hlast => hlast.elim (fun h => by omega) hmore⟩
      obtain ⟨m, hm⟩ := ih (k + 1) (by omega) hreached'
      refine ⟨m, ?_⟩
      rw [measure_of_more (hget k) hreadings hbelow hmore]
      rw [List.range_succ, List.flatMap_append, List.flatMap_singleton, List.append_assoc,
        doubledTable, Function.iterate_succ_apply'] at hm
      exact hm
    · refine ⟨k, makes_of_stops (hget k) hk hreached fun hswamped => .inr ?_⟩
      by_contra hle
      exact hmore ⟨hswamped, hle⟩

/-- A measurement at the count of its cell makes the rounds of the cell. -/
theorem exists_makes {table : IterationTable}
    (hcount : table.get? r.cell.routine r.cell.size = some r.cell.count)
    (hword : r.cell.count ≤ maxWord) :
    ∃ m, r.Makes table m (measureAdaptive r.invoker r.runtime r.settings r.initTime r.cell.routine
      r.cell.size ⟨r.start, table⟩) :=
  exists_makes_of_reached hcount hword r.settings.maxDoublings 0 (Nat.zero_add _) fun j hj =>
    absurd hj (Nat.not_lt_zero j)

/-- A measurement that comes to a round ends with its result exactly if the round is not swamped. -/
theorem result_eq_ok_iff {table : IterationTable} {k : Nat} {measurements : List Measurement}
    (hcount : table.get? r.cell.routine r.cell.size = some r.cell.count)
    (hword : r.cell.count ≤ maxWord) (hreached : r.Reached k)
    (hreadings : r.readings k = .ok measurements) :
    (measureAdaptive r.invoker r.runtime r.settings r.initTime r.cell.routine r.cell.size
      ⟨r.start, table⟩).result = .ok (r.result k measurements) ↔
      r.threshold ≤ r.rawReal measurements := by
  obtain ⟨m, hm⟩ := exists_makes hcount hword
  constructor
  · intro h
    have hends := hm.ends
    rw [h] at hends
    -- The count of the result says which round it is the result of.
    obtain rfl : m = k := by
      rcases Nat.lt_trichotomy m k with hlt | heq | hlt
      · exact absurd (hends.swamped_imp_last (hreached m hlt).1) (hreached m hlt).2
      · exact heq
      · exact absurd hends.iterations_eq (Nat.ne_of_lt (hm.reached.iterations_lt hlt))
    rcases (ends_iff_of_ok hreadings).mp hends with ⟨hclear, -⟩ | ⟨-, -, herror⟩
    · exact (not_swamped_iff hreadings).mp hclear
    · cases herror
  · intro hclear
    exact (hm.reached.unique hm.ends hreached (.accepted hreadings hclear)).2

end Rounds

/-- **The outcome of a measurement.** Without a count nothing happens. With a count, the rounds of
the cell are made, and only one result is possible. -/
theorem measureAdaptive_makes_rounds {σ : Type} (invoker : Invoker σ) (runtime : Runtime)
    (settings : Settings) (initTime : Binary64) (routine : String) (size : Nat)
    (state : SessionState σ) :
    let outcome := measureAdaptive invoker runtime settings initTime routine size state
    (state.table.get? routine size = none →
      outcome = ⟨.error (.planRefused (.noIterations routine size)), state, []⟩) ∧
    ∀ count ≤ maxWord, state.table.get? routine size = some count →
      let r : Rounds σ :=
        ⟨invoker, runtime, settings, initTime, ⟨routine, size, count⟩, state.invoker⟩
      (∃ k ≤ settings.maxDoublings, r.Reached k ∧ r.Ends k outcome.result ∧
        outcome.events = r.events k ∧ outcome.state.table = r.doubledTable state.table k) ∧
      ∀ k result, r.Reached k → r.Ends k result → outcome.result = result := by
  refine ⟨fun hnone => ?_, fun count hword hcount => ?_⟩
  · have hround := measureRound_of_none invoker runtime settings initTime hnone
    show measureUpTo invoker runtime settings initTime _ routine size settings.maxDoublings
      state = _
    cases settings.maxDoublings <;>
      rw [measureUpTo, Session.bind_of_apply_error hround]
  · obtain ⟨m, hm⟩ := Rounds.exists_makes
      (r := ⟨invoker, runtime, settings, initTime, ⟨routine, size, count⟩, state.invoker⟩)
      hcount hword
    exact ⟨⟨m, hm.reached.le_maxDoublings, hm.reached, hm.ends, hm.events_eq, hm.table_eq⟩,
      fun k result hreached hends => (hm.reached.unique hm.ends hreached hends).2⟩

/-- A measurement that takes two rounds, and one at a size without a count. -/
theorem measureAdaptive_sampleInvoker :
    let state : SessionState Unit := ⟨(), ({} : IterationTable).set "a" 8 1⟩
    let settings : Settings := { repetitions := 1, maxDoublings := 1 }
    let initTime := (Duration.ofNanoseconds (10 ^ 6)).seconds
    let measure (size : Nat) :=
      measureAdaptive sampleInvoker { program := "m" } settings initTime "a" size state
    let r : Rounds Unit :=
      ⟨sampleInvoker, { program := "m" }, settings, initTime, ⟨"a", 8, 1⟩, ()⟩
    (measure 8).calls = [["a", "8", "1"], ["a", "8", "2"]] ∧
    (∃ k ≤ 1, r.Reached k ∧ r.Ends k (measure 8).result) ∧
    measure 9 = ⟨.error (.planRefused (.noIterations "a" 9)), state, []⟩ := by
  intro state settings initTime measure r
  have hcount : state.table.get? "a" 8 = some 1 := by decide
  obtain ⟨⟨k, hk, hreached, hends, -⟩, -⟩ := (measureAdaptive_makes_rounds sampleInvoker
    { program := "m" } settings initTime "a" 8 state).2 1 (by decide) hcount
  have hmissing := (measureAdaptive_makes_rounds sampleInvoker { program := "m" } settings initTime
    "a" 9 state).1 (by decide)
  exact ⟨by decide +kernel, ⟨k, hk, hreached, hends⟩, hmissing⟩

end RoutineTiming
