import Mathlib.Tactic.IntervalCases
import RoutineTiming.Proofs.Binary64.Monotone
import RoutineTiming.Proofs.Measuring.LeastTime

/-!
# Convergence

If the time of a routine grows with its iteration count, then doubling the count lets the routine
stand out from the startup overhead sooner or later. How many doublings it takes can be said in
advance from the pace of the routine, the time that one iteration takes at least. The times may vary
from launch to launch, as long as no launch is faster than the pace.

## Main definitions

* `Statistic.KeepsBounds` : the statistics that keep a bound of all samples.
* `Invoker.Paced` : the launches of a pair succeed and keep to a pace.

## Main results

* `Duration.seconds_mono` : a longer time has no fewer seconds, in spite of the rounding.
* `Statistic.le_reduce` : what is no more than any sample is no more than what they are reduced to.
* `Invoker.Paced.call` : a pace is kept from one launch to the next.
* `Rounds.not_swamped_of_paced` : the round in which a routine stands out at the latest.
* `measureAdaptive_converges` : a measurement succeeds within the doublings that its pace needs.
-/

namespace RoutineTiming

/-! ### Lengths of time -/

/-- A longer time has no fewer seconds. -/
theorem Duration.seconds_mono {d d' : Duration} (h : d.nanoseconds ≤ d'.nanoseconds) :
    d.seconds ≤ d'.seconds := by
  have hfraction (d : Duration) : ∃ quanta hquanta,
      Binary64.ofNat (d.nanoseconds % 10 ^ 9) / Binary64.ofNat (10 ^ 9) =
        .finite false quanta hquanta ∧ quanta < Binary64.unit :=
    Binary64.ofNat_div_lt_unit (Nat.mod_lt _ (by decide)) (by decide)
  have hwhole (d : Duration) : d.nanoseconds / 10 ^ 9 ≤ 2 ^ 64 :=
    Nat.le_of_lt (Nat.div_lt_of_lt_mul (Nat.mul_comm (2 ^ 64) (10 ^ 9) ▸ d.bounded))
  have hamount {n : Nat} (hn : n ≤ 2 ^ 64) : (Binary64.ofNat n).IsAmount 64 :=
    Binary64.isAmount_ofNat (by decide) hn
  have hrest (d : Duration) : (Binary64.ofNat (d.nanoseconds % 10 ^ 9)).IsAmount 64 :=
    hamount (Nat.le_trans (Nat.le_of_lt (Nat.mod_lt _ (by decide))) (by decide))
  have hone : 1 ≤ Binary64.ofNat (10 ^ 9) := Binary64.one_le_ofNat (by decide)
  rcases Nat.eq_or_lt_of_le (Nat.div_le_div_right (c := 10 ^ 9) h) with heq | hlt
  · have hle : d.nanoseconds % 10 ^ 9 ≤ d'.nanoseconds % 10 ^ 9 := by omega
    rw [seconds, seconds, ← heq]
    refine (hamount (hwhole d)).add_mono ((hrest d).div hone (by decide))
      ((hrest d').div hone (by decide)) ?_
    exact (hrest d).div_mono (hrest d') (Binary64.ofNat_mono hle) hone
  · -- The next whole number of seconds lies between the two times.
    obtain ⟨quanta, hquanta, hrounded, hbelow⟩ := hfraction d
    have hfirst : d.seconds ≤ Binary64.ofNat (d.nanoseconds / 10 ^ 9 + 1) := by
      rw [seconds, hrounded]
      exact Binary64.ofNat_add_le_ofNat_succ (hwhole d) hquanta hbelow
    have hsecond : Binary64.ofNat (d'.nanoseconds / 10 ^ 9) ≤ d'.seconds :=
      (hamount (hwhole d')).le_add ((hrest d').div hone (by decide))
    exact Binary64.le_trans hfirst (Binary64.le_trans (Binary64.ofNat_mono hlt) hsecond)

/-! ### Reduced samples -/

/-- One amount is its own mean. -/
theorem Binary64.IsAmount.sum_div_one {k : Nat} {x : Binary64} (hx : x.IsAmount k) :
    sum [x] / ofNat 1 = x := by
  cases hx with
  | @intro quanta h _ =>
    have hsum : sum [finite false quanta h] = finite false quanta h := zero_add_finite h
    have hround : nearestQuanta (quanta * unit) unit = quanta := by
      rw [Nat.mul_comm]
      exact nearestQuanta_mul_left unit_pos h.2
    rw [hsum, show ofNat 1 = finite false unit representable_unit from one_eq,
      div_eq h representable_unit (Nat.ne_of_gt unit_pos), nearest_eq_finite hround h]

namespace Statistic

/-- The statistic lets a bound of all samples through: it is the minimum of at least one sample, or
the mean of just one. -/
def KeepsBounds (statistic : Statistic) (repetitions : Nat) : Prop :=
  statistic = .min ∧ 1 ≤ repetitions ∨ statistic = .mean ∧ repetitions = 1

/-- What is no more than any sample is no more than what they are reduced to. -/
theorem KeepsBounds.le_reduce {statistic : Statistic} {samples : List Binary64} {k : Nat}
    {bound : Binary64} (hstatistic : statistic.KeepsBounds samples.length)
    (hamounts : ∀ x ∈ samples, x.IsAmount k) (h : ∀ x ∈ samples, bound ≤ x) :
    bound ≤ statistic.reduce samples := by
  rcases hstatistic with ⟨rfl, hlength⟩ | ⟨rfl, hlength⟩
  · obtain ⟨x, hx⟩ := List.exists_mem_of_length_pos hlength
    have hnumber := Binary64.isNaN_of_isFinite (hamounts x hx).isFinite
    exact (le_reduce_min_iff ⟨x, hx, hnumber⟩).mpr fun y hy _ => h y hy
  · obtain ⟨x, rfl⟩ := List.length_eq_one_iff.mp hlength
    have hx := hamounts x (List.mem_singleton_self x)
    rw [reduce, if_neg (List.cons_ne_nil x [])]
    change bound ≤ Binary64.sum [x] / Binary64.ofNat 1
    rw [hx.sum_div_one]
    exact h x (List.mem_singleton_self x)

end Statistic

/-! ### Paced launches -/

section Paced

variable {σ : Type} {invoker : Invoker σ} {runtime : Runtime} {routine : String} {size : Nat}
  {pace limit : Nat}

/-- The arguments of a launch of a pair at a count. -/
def launchArgs (runtime : Runtime) (routine : String) (size count : Nat) : List String :=
  (Purpose.measurement routine size count).args runtime

/-- From a state on, all launches of a pair at counts up to a limit succeed and print a value and a
timing, and each of them takes at least the pace for every iteration. What else a launch takes may
depend on all the launches before it. -/
def Invoker.Paced (invoker : Invoker σ) (runtime : Runtime) (routine : String) (size : Nat)
    (pace limit : Nat) (s : σ) : Prop :=
  ∀ counts : List Nat, (∀ n ∈ counts, n ≤ limit) → ∀ count ≤ limit, ∃ invocation output,
    (invoker (launchArgs runtime routine size count)
      (invoker.after (counts.map (launchArgs runtime routine size)) s)).1 = .ok invocation ∧
    invocation.failure = none ∧
    RoutineOutput.parseMeasurement routine invocation.stdout = .ok output ∧
    pace * count ≤ invocation.elapsed.nanoseconds

namespace Invoker.Paced

variable {s : σ}

/-- A pace is kept from one launch to the next. -/
theorem call (h : invoker.Paced runtime routine size pace limit s) {count : Nat}
    (hcount : count ≤ limit) :
    invoker.Paced runtime routine size pace limit
      (invoker (launchArgs runtime routine size count) s).2 := by
  intro counts hcounts
  exact h (count :: counts) (List.forall_mem_cons.mpr ⟨hcount, hcounts⟩)

/-- The next launch gives a measurement that keeps to the pace. -/
theorem exists_measurement (h : invoker.Paced runtime routine size pace limit s) {count : Nat}
    (hcount : count ≤ limit) :
    ∃ m, measurementOf routine (invoker (launchArgs runtime routine size count) s).1 = .ok m ∧
      (Duration.ofNanoseconds (pace * count)).seconds ≤ m.real := by
  obtain ⟨invocation, output, hanswer, hfailure, houtput, hpace⟩ :=
    h [] (List.forall_mem_nil _) count hcount
  have hanswer : (invoker (launchArgs runtime routine size count) s).1 = .ok invocation := hanswer
  refine ⟨⟨output.value, invocation.elapsed.seconds, output.user, output.diagnostics⟩, ?_, ?_⟩
  · rw [hanswer]
    exact measurementOf_of_ok hfailure houtput
  · exact Duration.seconds_mono (Nat.le_trans (Nat.min_le_left _ _) hpace)

/-- Any number of launches at one count give measurements that keep to the pace. -/
theorem exists_measurements (h : invoker.Paced runtime routine size pace limit s) {count : Nat}
    (hcount : count ≤ limit) (repetitions : Nat) :
    let calls := List.replicate repetitions (launchArgs runtime routine size count)
    invoker.Paced runtime routine size pace limit (invoker.after calls s) ∧
    ∃ measurements, (invoker.replies calls s).mapM (measurementOf routine) = .ok measurements ∧
      measurements.length = repetitions ∧
      ∀ m ∈ measurements, (Duration.ofNanoseconds (pace * count)).seconds ≤ m.real := by
  induction repetitions generalizing s with
  | zero => exact ⟨h, [], rfl, rfl, List.forall_mem_nil _⟩
  | succ repetitions ih =>
    obtain ⟨m, hm, hpace⟩ := h.exists_measurement hcount
    obtain ⟨hafter, measurements, hmeasurements, hlength, hpaces⟩ := ih (h.call hcount)
    refine ⟨hafter, m :: measurements, ?_, congrArg (· + 1) hlength,
      List.forall_mem_cons.mpr ⟨hpace, hpaces⟩⟩
    exact mapM_cons_eq_ok_iff.mpr ⟨m, measurements, hm, hmeasurements, rfl⟩

end Invoker.Paced

end Paced

/-! ### Rounds -/

namespace Rounds

variable {σ : Type} {r : Rounds σ} {pace doublings : Nat}

theorem iterations_eq (hword : r.cell.count * 2 ^ doublings < 2 ^ 64) {k : Nat}
    (hk : k ≤ doublings) : r.iterations k = r.cell.count * 2 ^ k := by
  have hle : r.cell.count * 2 ^ k ≤ r.cell.count * 2 ^ doublings :=
    Nat.mul_le_mul_left _ (Nat.pow_le_pow_right Nat.two_pos hk)
  exact Nat.min_eq_left (by unfold maxWord; omega)

/-- The pace is kept through the rounds, and each round measures at the pace or slower. -/
theorem readings_of_paced (hword : r.cell.count * 2 ^ doublings < 2 ^ 64)
    (hpaced : r.invoker.Paced r.runtime r.cell.routine r.cell.size pace
      (r.cell.count * 2 ^ doublings) r.start) {k : Nat} (hk : k ≤ doublings) :
    r.invoker.Paced r.runtime r.cell.routine r.cell.size pace (r.cell.count * 2 ^ doublings)
      (r.before k) ∧
    ∃ measurements, r.readings k = .ok measurements ∧
      measurements.length = r.settings.repetitions ∧
      ∀ m ∈ measurements,
        (Duration.ofNanoseconds (pace * (r.cell.count * 2 ^ k))).seconds ≤ m.real := by
  have hround {k : Nat} (hk : k ≤ doublings)
      (h : r.invoker.Paced r.runtime r.cell.routine r.cell.size pace
        (r.cell.count * 2 ^ doublings) (r.before k)) :=
    h.exists_measurements (Nat.mul_le_mul_left _ (Nat.pow_le_pow_right Nat.two_pos hk))
      r.settings.repetitions
  have hcalls {k : Nat} (hk : k ≤ doublings) : r.calls k = List.replicate r.settings.repetitions
      (launchArgs r.runtime r.cell.routine r.cell.size (r.cell.count * 2 ^ k)) := by
    rw [calls, purpose, iterations_eq hword hk]
    rfl
  have hbefore : r.invoker.Paced r.runtime r.cell.routine r.cell.size pace
      (r.cell.count * 2 ^ doublings) (r.before k) := by
    induction k with
    | zero => exact hpaced
    | succ k ih =>
      have hk := Nat.le_of_succ_le hk
      rw [before, hcalls hk]
      exact (hround hk (ih hk)).1
  obtain ⟨-, hmeasurements⟩ := hround hk hbefore
  rw [readings, answers, hcalls hk]
  exact ⟨hbefore, hmeasurements⟩

/-- A round whose count, at the pace, takes as long as the threshold is not swamped. -/
theorem not_swamped_of_paced (hword : r.cell.count * 2 ^ doublings < 2 ^ 64)
    (hpaced : r.invoker.Paced r.runtime r.cell.routine r.cell.size pace
      (r.cell.count * 2 ^ doublings) r.start)
    (hstatistic : r.settings.statistic.KeepsBounds r.settings.repetitions)
    (hclear : r.threshold ≤
      (Duration.ofNanoseconds (pace * (r.cell.count * 2 ^ doublings))).seconds) :
    ¬ r.Swamped doublings := by
  obtain ⟨-, measurements, hreadings, hlength, hpace⟩ :=
    readings_of_paced hword hpaced (Nat.le_refl doublings)
  have hamounts : ∀ x ∈ measurements.map Measurement.real, x.IsAmount 65 :=
    List.forall_mem_map.mpr fun m hm => (isAmount_of_readings_eq hreadings m hm).1
  rw [not_swamped_iff hreadings]
  refine Statistic.KeepsBounds.le_reduce ?_ hamounts (List.forall_mem_map.mpr fun m hm => ?_)
  · rwa [List.length_map, hlength]
  · exact Binary64.le_trans hclear (hpace m hm)

end Rounds

/-- **Convergence.** If the launches of a pair keep to a pace, and the count doubled some number of
times takes, at that pace, at least as long as the threshold, then a measurement succeeds, with a
count that was doubled no more often. The count must not grow beyond 64 bits on the way, the
settings must allow the doublings, and the statistic must be the minimum or the mean of a single
sample. -/
theorem measureAdaptive_converges {σ : Type} (invoker : Invoker σ) (runtime : Runtime)
    (settings : Settings) (initTime : Binary64) (routine : String) (size : Nat)
    (state : SessionState σ) {count pace doublings : Nat} (hpositive : 1 ≤ count)
    (hcount : state.table.get? routine size = some count)
    (hpaced : invoker.Paced runtime routine size pace (count * 2 ^ doublings) state.invoker)
    (hstatistic : settings.statistic.KeepsBounds settings.repetitions)
    (hdoublings : doublings ≤ settings.maxDoublings) (hword : count * 2 ^ doublings < 2 ^ 64)
    (hclear : settings.swampFactor * initTime ≤
      (Duration.ofNanoseconds (pace * (count * 2 ^ doublings))).seconds) :
    ∃ result, ∃ j ≤ doublings,
      (measureAdaptive invoker runtime settings initTime routine size state).result = .ok result ∧
      result.iterations = count * 2 ^ j := by
  let r : Rounds σ := ⟨invoker, runtime, settings, initTime, ⟨routine, size, count⟩, state.invoker⟩
  have hle : count ≤ maxWord := by
    have := Nat.le_mul_of_pos_right count (Nat.two_pow_pos doublings)
    unfold maxWord
    omega
  obtain ⟨m, hreached, hends, -⟩ := Rounds.exists_makes (r := r) hcount hle
  have hnot : ¬ r.Swamped doublings :=
    Rounds.not_swamped_of_paced hword hpaced hstatistic hclear
  have hm : m ≤ doublings := by
    by_contra hlt
    exact hnot (hreached doublings (Nat.lt_of_not_le hlt)).1
  obtain ⟨-, measurements, hreadings, -⟩ := Rounds.readings_of_paced (r := r) hword hpaced hm
  rcases (Rounds.ends_iff_of_ok hreadings).mp hends with ⟨-, hresult⟩ | ⟨hswamped, hlast, -⟩
  · exact ⟨r.result m measurements, m, hm, hresult, Rounds.iterations_eq (r := r) hword hm⟩
  · -- A swamped round can be doubled, since it comes before the one that stands out.
    have hlt : m < doublings := Nat.lt_of_le_of_ne hm fun heq => hnot (heq ▸ hswamped)
    rcases hlast with hlast | hlast
    · exact absurd hlast (Nat.ne_of_lt (Nat.lt_of_lt_of_le hlt hdoublings))
    · rw [Rounds.iterations_eq (r := r) hword hlt, Rounds.iterations_eq (r := r) hword hm] at hlast
      have hgrows : count * 2 ^ m < count * 2 ^ (m + 1) :=
        Nat.mul_lt_mul_of_pos_left (Nat.pow_lt_pow_right (by decide) (Nat.lt_succ_self m)) hpositive
      exact absurd hlast (Nat.not_le_of_lt hgrows)

/-- A routine that takes at least a millisecond for each of up to ten iterations. -/
theorem measureAdaptive_converges_sampleInvoker :
    let initTime := (Duration.ofNanoseconds (10 ^ 6)).seconds
    let settings : Settings := { repetitions := 2, statistic := .min, maxDoublings := 3 }
    let state : SessionState Unit := ⟨(), ({} : IterationTable).set "a" 8 1⟩
    sampleInvoker.Paced { program := "m" } "a" 8 (10 ^ 6) (1 * 2 ^ 2) () ∧
    settings.swampFactor * initTime ≤
      (Duration.ofNanoseconds (10 ^ 6 * (1 * 2 ^ 2))).seconds ∧
    ∃ result, ∃ j ≤ 2,
      (measureAdaptive sampleInvoker { program := "m" } settings initTime "a" 8 state).result =
        .ok result ∧ result.iterations = 1 * 2 ^ j := by
  intro initTime settings state
  have hpaced : sampleInvoker.Paced { program := "m" } "a" 8 (10 ^ 6) (1 * 2 ^ 2) () := by
    intro counts _ count hcount
    refine ⟨_, _, rfl, rfl, parseMeasurement_sample "a", ?_⟩
    interval_cases count <;> decide +kernel
  have hclear : settings.swampFactor * initTime ≤
      (Duration.ofNanoseconds (10 ^ 6 * (1 * 2 ^ 2))).seconds := by decide +kernel
  exact ⟨hpaced, hclear, measureAdaptive_converges sampleInvoker { program := "m" } settings
    initTime "a" 8 state (Nat.le_refl 1) (by decide) hpaced (.inl ⟨rfl, by decide⟩) (by decide)
    (by decide) hclear⟩

end RoutineTiming
