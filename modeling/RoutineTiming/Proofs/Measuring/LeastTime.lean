import RoutineTiming.Proofs.Binary64.Minimum
import RoutineTiming.Proofs.Measuring.Amounts

/-!
# The least time of a round

Samples of which at least one is a number are reduced, as their minimum, to one of these numbers,
and to no more than any of them. Up to the sign of zero this depends neither on the order of the
samples nor on how often one of them occurs, and what is not a number has no part in it. So a round
is accepted when each of its times is at least the threshold, in whichever order they arrived.

## Main definitions

* `Rounds.ComesTo` : a measurement comes to a round, which gives some measurements.
* `Rounds.AcceptsRound` : a measurement ends with the result of a round.

## Main results

* `Statistic.le_reduce_min_iff`, `Statistic.reduce_min_mem` : the minimum of samples.
* `Statistic.reduce_min_filter`, `Statistic.reduce_min_equals`, `Statistic.reduce_min_append` : the
  minimum of fewer, of other and of more samples.
* `Rounds.ComesTo.accepts_iff_forall_le` : the rounds that are accepted.
* `minimum_of_samples_decides_round` : the minimum, and what it means for a round.
-/

namespace RoutineTiming

/-! ### The minimum of samples -/

namespace Statistic

variable {samples samples' : List Binary64} {bound x : Binary64}
  (h : ∃ x ∈ samples, x.isNaN = false)

include h

theorem reduce_min :
    Statistic.min.reduce samples = samples.foldl Binary64.min (.infinite false) := by
  obtain ⟨x, hx, -⟩ := h
  rw [reduce, if_neg (List.ne_nil_of_mem hx)]

theorem isNaN_reduce_min : (Statistic.min.reduce samples).isNaN = false := by
  rw [reduce_min h]
  exact Binary64.isNaN_foldl_min rfl samples

/-- What lies below the minimum lies below all samples. -/
theorem le_reduce_min_iff :
    bound ≤ Statistic.min.reduce samples ↔ ∀ x ∈ samples, x.isNaN = false → bound ≤ x := by
  rw [reduce_min h, Binary64.le_foldl_min_iff rfl, and_iff_right_iff_imp]
  intro hall
  obtain ⟨x, hx, hnumber⟩ := h
  exact Binary64.le_infinite_false (Binary64.isNaN_of_le (hall x hx hnumber)).1

omit h in
theorem reduce_min_le (hx : x ∈ samples) (hnumber : x.isNaN = false) :
    Statistic.min.reduce samples ≤ x := by
  have h : ∃ x ∈ samples, x.isNaN = false := ⟨x, hx, hnumber⟩
  exact (le_reduce_min_iff h).mp (Binary64.le_refl (isNaN_reduce_min h)) x hx hnumber

/-- The minimum is one of the samples. -/
theorem reduce_min_mem : Statistic.min.reduce samples ∈ samples := by
  have hle : ∀ x ∈ samples, x.isNaN = false → Statistic.min.reduce samples ≤ x :=
    fun _ => reduce_min_le
  rw [reduce_min h] at hle ⊢
  rcases Binary64.foldl_min_eq_or_mem (.infinite false) samples with heq | hmem
  · -- Nothing is below the infinity that the fold starts with, so the number is this infinity.
    obtain ⟨x, hx, hnumber⟩ := h
    have hinfinite := hle x hx hnumber
    rw [heq] at hinfinite ⊢
    rwa [← Binary64.eq_of_infinite_false_le hinfinite]
  · exact hmem

/-- What is not a number has no part in the minimum. -/
theorem reduce_min_filter :
    Statistic.min.reduce (samples.filter fun x => !x.isNaN) = Statistic.min.reduce samples := by
  have hfilter : ∃ x ∈ samples.filter fun x => !x.isNaN, x.isNaN = false :=
    h.imp fun x hx => ⟨List.mem_filter.mpr ⟨hx.1, by rw [hx.2]; rfl⟩, hx.2⟩
  rw [reduce_min h, reduce_min hfilter, Binary64.foldl_min_filter]

/-- Samples with equal numbers have equal minima, whatever their order and however often they
occur. -/
theorem reduce_min_equals
    (hto : ∀ x ∈ samples, x.isNaN = false → ∃ y ∈ samples', y.Equals x)
    (hfrom : ∀ y ∈ samples', y.isNaN = false → ∃ x ∈ samples, x.Equals y) :
    (Statistic.min.reduce samples').Equals (Statistic.min.reduce samples) := by
  have h' : ∃ y ∈ samples', y.isNaN = false := by
    obtain ⟨x, hx, hnumber⟩ := h
    obtain ⟨y, hy, hle, -⟩ := hto x hx hnumber
    exact ⟨y, hy, (Binary64.isNaN_of_le hle).1⟩
  refine Binary64.equals_of_le_iff (isNaN_reduce_min h') (isNaN_reduce_min h) fun bound => ?_
  rw [le_reduce_min_iff h, le_reduce_min_iff h']
  exact ⟨Binary64.forall_le_of_equals hto, Binary64.forall_le_of_equals hfrom⟩

/-- The sign of zero is that of the first zero. -/
example : Statistic.min.reduce [.zero false, .zero true] = .zero false ∧
    Statistic.min.reduce [.zero true, .zero false] = .zero true := by decide +kernel

/-- The minimum of samples in two parts is the smaller one of the two minima. -/
theorem reduce_min_append (h' : ∃ x ∈ samples', x.isNaN = false) :
    Statistic.min.reduce (samples ++ samples') =
      if Statistic.min.reduce samples' < Statistic.min.reduce samples
      then Statistic.min.reduce samples' else Statistic.min.reduce samples := by
  have hboth : ∃ x ∈ samples ++ samples', x.isNaN = false :=
    h.imp fun x hx => ⟨List.mem_append_left samples' hx.1, hx.2⟩
  rw [← Binary64.min_of_number (isNaN_reduce_min h), reduce_min h,
    reduce_min h', reduce_min hboth, Binary64.foldl_min_append]

end Statistic

/-! ### Rounds that are accepted -/

namespace Rounds

variable {σ : Type} {r : Rounds σ} {table : IterationTable} {k : Nat}
  {measurements : List Measurement}

/-- A measurement of the cell that starts with the table comes to round `k`, in which all answers
give measurements. -/
structure ComesTo (r : Rounds σ) (table : IterationTable) (k : Nat)
    (measurements : List Measurement) : Prop where
  get?_eq : table.get? r.cell.routine r.cell.size = some r.cell.count
  count_le : r.cell.count ≤ maxWord
  reached : r.Reached k
  readings_eq : r.readings k = .ok measurements

/-- A measurement of the cell that starts with the table ends with the result of round `k`. -/
def AcceptsRound (r : Rounds σ) (table : IterationTable) (k : Nat)
    (measurements : List Measurement) : Prop :=
  (measureAdaptive r.invoker r.runtime r.settings r.initTime r.cell.routine r.cell.size
    ⟨r.start, table⟩).result = .ok (r.result k measurements)

namespace ComesTo

theorem accepts_iff (h : r.ComesTo table k measurements) :
    r.AcceptsRound table k measurements ↔ r.threshold ≤ r.rawReal measurements :=
  result_eq_ok_iff h.get?_eq h.count_le h.reached h.readings_eq

/-- There is a measurement for each repetition. -/
theorem length_eq (h : r.ComesTo table k measurements) :
    measurements.length = r.settings.repetitions := by
  have hlength := congrArg List.length (mapM_eq_ok_iff.mp h.readings_eq)
  rw [List.length_map, List.length_map, length_answers] at hlength
  exact hlength.symm

/-- Times are numbers, however long the processes take. -/
theorem isNaN_real (h : r.ComesTo table k measurements) {m : Measurement}
    (hm : m ∈ measurements) : m.real.isNaN = false :=
  Binary64.isNaN_of_isFinite (isAmount_of_readings_eq h.readings_eq m hm).1.isFinite

/-- With the minimum, a round is accepted exactly if each of its times is at least the
threshold. -/
theorem accepts_iff_forall_le (h : r.ComesTo table k measurements)
    (hmin : r.settings.statistic = .min) (hne : measurements ≠ []) :
    r.AcceptsRound table k measurements ↔ ∀ m ∈ measurements, r.threshold ≤ m.real := by
  have hnumber : ∃ x ∈ measurements.map Measurement.real, x.isNaN = false := by
    obtain ⟨m, hm⟩ := List.exists_mem_of_ne_nil measurements hne
    exact ⟨m.real, List.mem_map_of_mem hm, h.isNaN_real hm⟩
  rw [h.accepts_iff, rawReal, hmin, Statistic.le_reduce_min_iff hnumber, List.forall_mem_map]
  exact forall₂_congr fun m hm => ⟨fun hle => hle (h.isNaN_real hm), fun hle _ => hle⟩

end ComesTo

end Rounds

/-- **The minimum statistic is a minimum.** Samples of which at least one is a number are reduced to
a number, which is one of them and no more than any of them. What is not a number has no part in it.
Samples in another order, or with copies left out, are reduced to an equal number, and samples in
two parts to the smaller one of the minima of the parts. So a measurement that comes to a round
accepts it exactly if each time of the round is at least the threshold, and a round in which the
same times arrive in another order is accepted as well or is not accepted either. -/
theorem minimum_of_samples_decides_round :
    (∀ samples : List Binary64, (∃ x ∈ samples, x.isNaN = false) →
      let least := Statistic.min.reduce samples
      least.isNaN = false ∧ (∀ x ∈ samples, x.isNaN = false → least ≤ x) ∧ least ∈ samples ∧
      Statistic.min.reduce (samples.filter fun x => !x.isNaN) = least ∧
      (∀ samples', samples.Perm samples' → (Statistic.min.reduce samples').Equals least) ∧
      (∀ kept, kept.Sublist samples →
        (∀ x ∈ samples, x.isNaN = false → ∃ y ∈ kept, y.Equals x) →
        (Statistic.min.reduce kept).Equals least) ∧
      ∀ samples', (∃ x ∈ samples', x.isNaN = false) →
        Statistic.min.reduce (samples ++ samples') =
          if Statistic.min.reduce samples' < least then Statistic.min.reduce samples'
          else least) ∧
    ∀ {σ : Type} (r : Rounds σ) (table : IterationTable) (k : Nat)
      (measurements : List Measurement), r.ComesTo table k measurements →
      r.settings.statistic = .min → 1 ≤ r.settings.repetitions →
      (r.AcceptsRound table k measurements ↔ ∀ m ∈ measurements, r.threshold ≤ m.real) ∧
      ∀ {σ' : Type} (r' : Rounds σ') (table' : IterationTable) (k' : Nat)
        (measurements' : List Measurement), r'.ComesTo table' k' measurements' →
        r'.settings.statistic = .min → r'.threshold = r.threshold →
        (measurements.map Measurement.real).Perm (measurements'.map Measurement.real) →
        (r'.AcceptsRound table' k' measurements' ↔ r.AcceptsRound table k measurements) := by
  refine ⟨fun samples h => ⟨Statistic.isNaN_reduce_min h, fun _ => Statistic.reduce_min_le,
    Statistic.reduce_min_mem h, Statistic.reduce_min_filter h, fun samples' hperm => ?_,
    fun kept hkept hcopies => ?_, fun samples' => Statistic.reduce_min_append h⟩,
    fun r table k measurements h hmin hrepetitions => ?_⟩
  · exact Statistic.reduce_min_equals h
      (fun x hx hnumber => ⟨x, hperm.mem_iff.mp hx, .refl hnumber⟩)
      (fun x hx hnumber => ⟨x, hperm.mem_iff.mpr hx, .refl hnumber⟩)
  · exact Statistic.reduce_min_equals h hcopies
      (fun x hx hnumber => ⟨x, hkept.subset hx, .refl hnumber⟩)
  · have hne : measurements ≠ [] := by
      rw [← List.length_pos_iff, h.length_eq]
      exact hrepetitions
    have haccepts := h.accepts_iff_forall_le hmin hne
    refine ⟨haccepts, fun r' table' k' measurements' h' hmin' hthreshold hperm => ?_⟩
    have hne' : measurements' ≠ [] := by
      rintro rfl
      exact hne (List.map_eq_nil_iff.mp hperm.eq_nil)
    rw [haccepts, h'.accepts_iff_forall_le hmin' hne', hthreshold]
    calc
      (∀ m ∈ measurements', r.threshold ≤ m.real) ↔
          ∀ x ∈ measurements'.map Measurement.real, r.threshold ≤ x := List.forall_mem_map.symm
      _ ↔ ∀ x ∈ measurements.map Measurement.real, r.threshold ≤ x :=
        forall_congr' fun x => imp_congr_left hperm.mem_iff.symm
      _ ↔ ∀ m ∈ measurements, r.threshold ≤ m.real := List.forall_mem_map

/-- Samples with both zeros and not-a-number, and two times that arrive in either order: the second
round of one measurement is accepted, and the first one of the other. -/
theorem minimum_of_samples_decides_round_reversed :
    let samples : List Binary64 := [.nan, 3, .zero true, 3, .zero false]
    let invoker : Invoker (List Nat) := fun _ times =>
      (.ok { stdout := "8\n5\n", stderr := "", failure := none,
             elapsed := .ofNanoseconds (times.headD 0 * 10 ^ 6) }, times.tail)
    let measurement (milliseconds : Nat) : Measurement :=
      ⟨"8", (Duration.ofNanoseconds (milliseconds * 10 ^ 6)).seconds, 5 / 1000000, []⟩
    let rounds (times : List Nat) : Rounds (List Nat) :=
      ⟨invoker, { program := "m" }, { repetitions := 2, statistic := .min },
        (Duration.ofNanoseconds (10 ^ 6)).seconds, ⟨"a", 8, 1⟩, times⟩
    let table := IterationTable.set {} "a" 8 1
    (∃ x ∈ samples, x.isNaN = false) ∧ Statistic.min.reduce samples = .zero true ∧
    (Statistic.min.reduce samples.reverse).Equals (.zero true) ∧
    (Statistic.min.reduce [3, .zero false]).Equals (.zero true) ∧
    Statistic.min.reduce (samples ++ [-3]) = -3 ∧
    (rounds [5, 2, 4, 3]).ComesTo table 1 [measurement 4, measurement 3] ∧
    (rounds [5, 2, 4, 3]).AcceptsRound table 1 [measurement 4, measurement 3] ∧
    (rounds [3, 4]).ComesTo table 0 [measurement 3, measurement 4] ∧
    (rounds [3, 4]).AcceptsRound table 0 [measurement 3, measurement 4] := by
  intro samples invoker measurement rounds table
  obtain ⟨hminimum, hrounds⟩ := minimum_of_samples_decides_round
  have hnumber : ∃ x ∈ samples, x.isNaN = false := by decide +kernel
  have hleast : Statistic.min.reduce samples = .zero true := by decide +kernel
  obtain ⟨-, -, -, -, hperm, hsublist, happend⟩ := hminimum samples hnumber
  have hreverse := hperm samples.reverse (List.reverse_perm samples).symm
  have hkept := hsublist [3, .zero false] (by decide +kernel) (by decide +kernel)
  have hsmaller := (happend [-3] (by decide +kernel)).trans (show _ = -3 by decide +kernel)
  rw [hleast] at hreverse hkept
  have hsecond : (rounds [5, 2, 4, 3]).ComesTo table 1 [measurement 4, measurement 3] := by
    have hfirst : (rounds [5, 2, 4, 3]).readings 0 = .ok [measurement 5, measurement 2] :=
      eq_ok_of_toOption (by decide +kernel)
    refine ⟨by decide, by decide, fun j hj => ?_, eq_ok_of_toOption (by decide +kernel)⟩
    obtain rfl : j = 0 := Nat.lt_one_iff.mp hj
    exact ⟨(Rounds.swamped_iff hfirst).mpr (by decide +kernel), not_or.mpr (by decide)⟩
  have hother : (rounds [3, 4]).ComesTo table 0 [measurement 3, measurement 4] :=
    ⟨by decide, by decide, fun j hj => absurd hj (Nat.not_lt_zero j),
      eq_ok_of_toOption (by decide +kernel)⟩
  obtain ⟨haccepts, horder⟩ := hrounds _ table 1 _ hsecond rfl (by decide)
  have haccepted := haccepts.mpr (by decide +kernel)
  have hswapped := horder _ table 0 _ hother rfl rfl (List.Perm.swap _ _ [])
  exact ⟨hnumber, hleast, hreverse, hkept, hsmaller, hsecond, haccepted, hother,
    hswapped.mpr haccepted⟩

end RoutineTiming
