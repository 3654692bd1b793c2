import RoutineTiming.Proofs.Binary64.Operations
import RoutineTiming.Proofs.DoubledTable
import RoutineTiming.Proofs.Measuring.Rounds

/-!
# Lower thresholds and more doublings

Two measurements of one cell that differ in nothing but the threshold and the number of doublings
that are allowed go through the same rounds, until one of them ends. The one with the lower
threshold and the more doublings accepts no later than the other one accepts, and the doublings do
nothing but cut a measurement off.

## Main definitions

* `Accepts` : the outcomes of measurements that accept a round.

## Main results

* `exists_round_of_ok`, `exists_round_of_other_error` : the round that a measurement begins with.
* `accepts_of_measureUpTo`, `Accepts.measureUpTo_eq` : measurements that succeed.
* `Accepts.of_le` : a lower threshold accepts a round no later.
* `measureUpTo_of_other_error` : measurements that fail.
* `measureAdaptive_monotone` : the comparison of two measurements under different settings.
-/

namespace RoutineTiming

variable {σ : Type} {invoker : Invoker σ} {runtime : Runtime} {settings : Settings}
  {initTime : Binary64} {routine : String} {size : Nat}

/-! ### What a round leaves -/

theorem table_collectSamples (iterations repetitions : Nat) (samples : Samples)
    (state : SessionState σ) :
    (collectSamples invoker runtime routine size iterations repetitions samples state).state.table =
      state.table := by
  cases h : (invoker.replies (List.replicate repetitions
      ((Purpose.measurement routine size iterations).args runtime)) state.invoker).mapM
        (measurementOf routine) with
  | ok measurements => rw [collectSamples_of_ok samples state.table rfl h]
  | error e =>
    obtain ⟨s, hs⟩ := collectSamples_of_error samples state.table rfl h
    rw [hs]

section Round

variable {threshold : Binary64} {doublings : Nat} {state state' : SessionState σ}
  {events : List Event} {result : CellResult}

/-- A round does not change the table. -/
theorem table_of_measureRound {answer : Except BenchError CellResult}
    (h : measureRound invoker runtime settings initTime routine size state =
      ⟨answer, state', events⟩) : state'.table = state.table := by
  have htable : (measureRound invoker runtime settings initTime routine size state).state.table =
      state.table := by
    cases hcount : state.table.get? routine size with
    | none => rw [measureRound_of_none _ _ _ _ hcount]
    | some count =>
      rw [measureRound_of_some _ _ _ _ hcount, Session.bind_pure_apply]
      exact table_collectSamples count settings.repetitions {} state
  rwa [h] at htable

/-- A round is made at the count of the table. -/
theorem get?_of_measureRound
    (h : measureRound invoker runtime settings initTime routine size state =
      ⟨.ok result, state', events⟩) : state.table.get? routine size = some result.iterations := by
  have h := congrArg Outcome.result h
  cases hcount : state.table.get? routine size with
  | none =>
    rw [measureRound_of_none _ _ _ _ hcount] at h
    cases h
  | some count =>
    rw [measureRound_of_some _ _ _ _ hcount, Session.bind_pure_apply] at h
    cases hsamples : (collectSamples invoker runtime routine size count settings.repetitions {}
        state).result with
    | error e =>
      rw [hsamples] at h
      cases h
    | ok samples =>
      rw [hsamples] at h
      rw [← Except.ok.inj h]
      rfl

/-! ### How a measurement begins -/

/-- A measurement that succeeds begins with a round that succeeds and is either accepted or made
again at twice the count. -/
theorem exists_round_of_ok
    (h : (measureUpTo invoker runtime settings initTime threshold routine size doublings
      state).result = .ok result) :
    ∃ first state' events, measureRound invoker runtime settings initTime routine size state =
        ⟨.ok first, state', events⟩ ∧
      (threshold ≤ first.rawReal ∨
        doublings ≠ 0 ∧ ¬ doubled first.iterations ≤ first.iterations) := by
  cases hround : measureRound invoker runtime settings initTime routine size state with
  | mk answer state' events =>
    cases answer with
    | error e =>
      rw [measureUpTo_of_error hround] at h
      cases h
    | ok first =>
      refine ⟨first, state', events, rfl, ?_⟩
      by_contra hnot
      obtain ⟨hswamped, hlast⟩ := not_or.mp hnot
      rw [measureUpTo_of_last hround hswamped (by omega)] at h
      cases h

/-- A measurement that fails for another reason than that it is swamped begins with a round that
fails for this reason or is made again at twice the count. -/
theorem exists_round_of_other_error {e : BenchError}
    (h : (measureUpTo invoker runtime settings initTime threshold routine size doublings
      state).result = .error e) (hother : ∀ count, e ≠ .noConvergence routine size count) :
    ∃ answer state' events, measureRound invoker runtime settings initTime routine size state =
        ⟨answer, state', events⟩ ∧
      (answer = .error e ∨ ∃ first, answer = .ok first ∧ ¬ threshold ≤ first.rawReal ∧
        doublings ≠ 0 ∧ ¬ doubled first.iterations ≤ first.iterations) := by
  cases hround : measureRound invoker runtime settings initTime routine size state with
  | mk answer state' events =>
    refine ⟨answer, state', events, rfl, ?_⟩
    cases answer with
    | error e' =>
      rw [measureUpTo_of_error hround] at h
      exact .inl h
    | ok first =>
      have hswamped : ¬ threshold ≤ first.rawReal := by
        intro hclear
        rw [measureUpTo_of_clear hround hclear] at h
        cases h
      refine .inr ⟨first, rfl, hswamped, ?_⟩
      by_contra hlast
      rw [measureUpTo_of_last hround hswamped (by omega)] at h
      exact hother _ (Except.error.inj h).symm

end Round

/-! ### Measurements that succeed -/

/-- The outcome of a measurement that accepts a round after `k` rounds that are swamped. -/
inductive Accepts (invoker : Invoker σ) (runtime : Runtime) (settings : Settings)
    (initTime threshold : Binary64) (routine : String) (size : Nat) :
    SessionState σ → Nat → Outcome σ CellResult → Prop
  | clear {state state' : SessionState σ} {events : List Event} {result : CellResult}
      (hround : measureRound invoker runtime settings initTime routine size state =
        ⟨.ok result, state', events⟩) (hclear : threshold ≤ result.rawReal) :
      Accepts invoker runtime settings initTime threshold routine size state 0
        ⟨.ok result, state', events⟩
  | more {state state' : SessionState σ} {events : List Event} {first : CellResult} {k : Nat}
      {rest : Outcome σ CellResult}
      (hround : measureRound invoker runtime settings initTime routine size state =
        ⟨.ok first, state', events⟩) (hswamped : ¬ threshold ≤ first.rawReal)
      (hmore : ¬ doubled first.iterations ≤ first.iterations)
      (hrest : Accepts invoker runtime settings initTime threshold routine size
        ⟨state'.invoker, state'.table.double routine size⟩ k rest) :
      Accepts invoker runtime settings initTime threshold routine size state (k + 1)
        ⟨rest.result, rest.state,
          events ++ swampedNotice routine size initTime first :: rest.events⟩

section Accepts

variable {threshold threshold' : Binary64} {state : SessionState σ} {k : Nat}
  {outcome : Outcome σ CellResult}

/-- A measurement that succeeds accepts a round within the doublings that it is allowed. -/
theorem accepts_of_measureUpTo {doublings : Nat} {result : CellResult}
    (h : (measureUpTo invoker runtime settings initTime threshold routine size doublings
      state).result = .ok result) :
    ∃ k ≤ doublings, Accepts invoker runtime settings initTime threshold routine size state k
      (measureUpTo invoker runtime settings initTime threshold routine size doublings state) := by
  induction doublings generalizing state with
  | zero =>
    obtain ⟨first, state', events, hround, hgo⟩ := exists_round_of_ok h
    have hclear := hgo.resolve_right fun hmore => hmore.1 rfl
    rw [measureUpTo_of_clear hround hclear]
    exact ⟨0, Nat.le_refl 0, .clear hround hclear⟩
  | succ doublings ih =>
    obtain ⟨first, state', events, hround, hgo⟩ := exists_round_of_ok h
    by_cases hclear : threshold ≤ first.rawReal
    · rw [measureUpTo_of_clear hround hclear]
      exact ⟨0, Nat.zero_le _, .clear hround hclear⟩
    · have hmore := (hgo.resolve_left hclear).2
      rw [measureUpTo_of_more hround hclear hmore] at h ⊢
      obtain ⟨k, hk, hrest⟩ := ih h
      exact ⟨k + 1, Nat.succ_le_succ hk, .more hround hclear hmore hrest⟩

/-- A round that can be accepted within the allowed doublings is accepted. -/
theorem Accepts.measureUpTo_eq
    (h : Accepts invoker runtime settings initTime threshold routine size state k outcome)
    {doublings : Nat} (hk : k ≤ doublings) :
    measureUpTo invoker runtime settings initTime threshold routine size doublings state =
      outcome := by
  induction h generalizing doublings with
  | clear hround hclear => exact measureUpTo_of_clear hround hclear
  | more hround hswamped hmore _ ih =>
    obtain ⟨doublings, rfl⟩ := Nat.exists_eq_succ_of_ne_zero (Nat.ne_zero_of_lt hk)
    rw [Nat.succ_eq_add_one, measureUpTo_of_more hround hswamped hmore,
      ih (Nat.le_of_succ_le_succ hk)]

namespace Accepts

/-- The table that is left has the first count doubled once for each swamped round. -/
theorem table_eq
    (h : Accepts invoker runtime settings initTime threshold routine size state k outcome) :
    outcome.state.table = state.table.doubleBy (routine, size) k := by
  induction h with
  | clear hround hclear => exact table_of_measureRound hround
  | more hround hswamped hmore _ ih =>
    rw [ih, table_of_measureRound hround]
    rfl

/-- The result has the count that is left in the table, which is not below the first one. -/
theorem exists_result
    (h : Accepts invoker runtime settings initTime threshold routine size state k outcome) :
    ∃ result, outcome.result = .ok result ∧
      outcome.state.table.get? routine size = some result.iterations ∧
      ∃ count ≤ result.iterations, state.table.get? routine size = some count := by
  induction h with
  | clear hround hclear =>
    have hcount := get?_of_measureRound hround
    refine ⟨_, rfl, ?_, _, Nat.le_refl _, hcount⟩
    rwa [table_of_measureRound hround]
  | more hround hswamped hmore _ ih =>
    have hcount := get?_of_measureRound hround
    obtain ⟨result, hresult, hlast, count, hle, hdoubled⟩ := ih
    rw [IterationTable.get?_double, if_pos ⟨rfl, rfl⟩, table_of_measureRound hround, hcount,
      Option.map_some, Option.some.injEq] at hdoubled
    exact ⟨result, hresult, hlast, _, by omega, hcount⟩

/-- Under a lower threshold no later round is accepted, and nothing else happens before it. -/
theorem of_le
    (h : Accepts invoker runtime settings initTime threshold' routine size state k outcome)
    (hle : threshold ≤ threshold') :
    ∃ j ≤ k, ∃ sooner, Accepts invoker runtime settings initTime threshold routine size state j
        sooner ∧ sooner.events <+: outcome.events ∧
      ∀ result result', sooner.result = .ok result → outcome.result = .ok result' →
        result.iterations ≤ result'.iterations := by
  induction h with
  | clear hround hclear =>
    refine ⟨0, Nat.le_refl 0, _, .clear hround (Binary64.le_trans hle hclear), List.prefix_rfl,
      fun result result' h h' => ?_⟩
    exact Nat.le_of_eq (congrArg CellResult.iterations (Except.ok.inj (h.symm.trans h')))
  | @more state state' events first k rest hround hswamped hmore hrest ih =>
    by_cases hclear : threshold ≤ first.rawReal
    · refine ⟨0, Nat.zero_le _, _, .clear hround hclear, List.prefix_append _ _,
        fun result result' h h' => ?_⟩
      obtain ⟨last, hlast, -, count, hcount, hfirst⟩ :=
        (more hround hswamped hmore hrest).exists_result
      rw [get?_of_measureRound hround] at hfirst
      cases hfirst
      cases h
      rwa [Except.ok.inj (hlast.symm.trans h')] at hcount
    · obtain ⟨j, hj, sooner, hsooner, hprefix, hcounts⟩ := ih
      refine ⟨j + 1, Nat.succ_le_succ hj, _, .more hround hclear hmore hsooner, ?_, hcounts⟩
      exact (List.prefix_append_right_inj events).mpr ((List.prefix_cons_inj _).mpr hprefix)

/-- Equal thresholds accept the same round. -/
theorem of_eq
    (h : Accepts invoker runtime settings initTime threshold' routine size state k outcome)
    (hle : threshold ≤ threshold') (hge : threshold' ≤ threshold) :
    Accepts invoker runtime settings initTime threshold routine size state k outcome := by
  induction h with
  | clear hround hclear => exact .clear hround (Binary64.le_trans hle hclear)
  | more hround hswamped hmore _ ih =>
    exact .more hround (fun hclear => hswamped (Binary64.le_trans hge hclear)) hmore ih

end Accepts

end Accepts

/-! ### Measurements that fail -/

/-- With more doublings, and under any threshold, a measurement that fails for another reason than
that it is swamped succeeds or fails for the same reason. -/
theorem measureUpTo_of_other_error {threshold threshold' : Binary64} {doublings doublings' : Nat}
    (hmost : doublings' ≤ doublings) {state : SessionState σ} {e : BenchError}
    (h : (measureUpTo invoker runtime settings initTime threshold' routine size doublings'
      state).result = .error e) (hother : ∀ count, e ≠ .noConvergence routine size count) :
    let outcome :=
      measureUpTo invoker runtime settings initTime threshold routine size doublings state
    (∃ result, outcome.result = .ok result) ∨ outcome.result = .error e := by
  induction doublings' generalizing doublings state with
  | zero =>
    obtain ⟨answer, state', events, hround, hgo⟩ := exists_round_of_other_error h hother
    rcases hgo with rfl | ⟨first, -, -, hnone, -⟩
    · rw [measureUpTo_of_error hround]
      exact .inr rfl
    · exact absurd rfl hnone
  | succ doublings' ih =>
    obtain ⟨doublings, rfl⟩ := Nat.exists_eq_succ_of_ne_zero (Nat.ne_zero_of_lt hmost)
    obtain ⟨answer, state', events, hround, hgo⟩ := exists_round_of_other_error h hother
    rcases hgo with rfl | ⟨first, rfl, hswamped, -, hmore⟩
    · rw [measureUpTo_of_error hround]
      exact .inr rfl
    · by_cases hclear : threshold ≤ first.rawReal
      · rw [measureUpTo_of_clear hround hclear]
        exact .inl ⟨first, rfl⟩
      · rw [measureUpTo_of_more hround hswamped hmore] at h
        rw [Nat.succ_eq_add_one, measureUpTo_of_more hround hclear hmore]
        exact ih (Nat.le_of_succ_le_succ hmost) h

/-! ### Two settings -/

/-- Rounds do not depend on the threshold and on how often a count may be doubled. -/
theorem measureUpTo_settings (factor : Binary64) (limit doublings : Nat) (threshold : Binary64) :
    measureUpTo invoker runtime { settings with swampFactor := factor, maxDoublings := limit }
        initTime threshold routine size doublings =
      measureUpTo invoker runtime settings initTime threshold routine size doublings := by
  induction doublings with
  | zero => rfl
  | succ doublings ih =>
    rw [measureUpTo, measureUpTo, ih]
    rfl

/-- **Lower thresholds and more doublings.** A measurement that succeeds also does so under a lower
threshold and with more doublings allowed; it then doubles its count no more often, ends at no
larger count and makes the same launches up to an earlier one. Under equal thresholds nothing
changes at all. A measurement that fails for another reason than that it is swamped succeeds or
fails for the same reason. -/
theorem measureAdaptive_monotone (invoker : Invoker σ) (runtime : Runtime) (settings : Settings)
    (initTime : Binary64) (routine : String) (size : Nat) (state : SessionState σ)
    {factor factor' : Binary64} (hfactor : factor * initTime ≤ factor' * initTime)
    {doublings doublings' : Nat} (hdoublings : doublings' ≤ doublings) :
    let measure (factor : Binary64) (doublings : Nat) :=
      measureAdaptive invoker runtime
        { settings with swampFactor := factor, maxDoublings := doublings } initTime routine size
        state
    let eased := measure factor doublings
    let strict := measure factor' doublings'
    (∀ result', strict.result = .ok result' →
      (∃ result k k', eased.result = .ok result ∧ k ≤ k' ∧
        eased.state.table = state.table.doubleBy (routine, size) k ∧
        strict.state.table = state.table.doubleBy (routine, size) k' ∧
        eased.state.table.get? routine size = some result.iterations ∧
        strict.state.table.get? routine size = some result'.iterations ∧
        result.iterations ≤ result'.iterations ∧
        eased.events <+: strict.events ∧ eased.calls <+: strict.calls) ∧
      (factor' * initTime ≤ factor * initTime → eased = strict)) ∧
    ∀ e, strict.result = .error e → (∀ count, e ≠ .noConvergence routine size count) →
      (∃ result, eased.result = .ok result) ∨ eased.result = .error e := by
  intro measure eased strict
  have hmeasure (factor : Binary64) (doublings : Nat) : measure factor doublings =
      measureUpTo invoker runtime settings initTime (factor * initTime) routine size doublings
        state := congrFun (measureUpTo_settings factor doublings doublings _) state
  have heased : eased = _ := hmeasure factor doublings
  have hstrict : strict = _ := hmeasure factor' doublings'
  refine ⟨fun result' h => ?_, fun e h hother => ?_⟩
  · rw [hstrict] at h
    obtain ⟨k', hk', haccepts'⟩ := accepts_of_measureUpTo h
    rw [← hstrict] at h haccepts'
    obtain ⟨k, hk, sooner, haccepts, hprefix, hcounts⟩ := haccepts'.of_le hfactor
    have hsooner : eased = sooner :=
      heased.trans (haccepts.measureUpTo_eq (Nat.le_trans hk (Nat.le_trans hk' hdoublings)))
    rw [← hsooner] at haccepts hprefix hcounts
    obtain ⟨result, hresult, hcount, -⟩ := haccepts.exists_result
    obtain ⟨last, hlast, hcount', -⟩ := haccepts'.exists_result
    rw [Except.ok.inj (hlast.symm.trans h)] at hcount'
    refine ⟨⟨result, k, k', hresult, hk, haccepts.table_eq, haccepts'.table_eq, hcount, hcount',
      hcounts result result' hresult h, hprefix, hprefix.filterMap _⟩, fun hge => ?_⟩
    exact heased.trans
      ((haccepts'.of_eq hfactor hge).measureUpTo_eq (Nat.le_trans hk' hdoublings))
  · rw [heased]
    rw [hstrict] at h
    exact measureUpTo_of_other_error hdoublings h hother

/-- A measurement that is accepted in its first round instead of its second one. -/
theorem measureAdaptive_monotone_sampleInvoker :
    let initTime := (Duration.ofNanoseconds (10 ^ 6)).seconds
    let state : SessionState Unit := ⟨(), ({} : IterationTable).set "a" 8 1⟩
    let measure (factor : Binary64) (doublings : Nat) :=
      measureAdaptive sampleInvoker { program := "m" }
        { repetitions := 1, swampFactor := factor, maxDoublings := doublings } initTime "a" 8 state
    (1 * initTime ≤ 3 * initTime ∧ 1 ≤ 2) ∧
    (measure 3 1).calls = [["a", "8", "1"], ["a", "8", "2"]] ∧
    (measure 1 2).calls = [["a", "8", "1"]] ∧
    ∃ result, (measure 1 2).result = .ok result ∧ (measure 1 2).calls <+: (measure 3 1).calls := by
  intro initTime state measure
  have hfactor : 1 * initTime ≤ 3 * initTime := by decide +kernel
  have hresult : (measure 3 1).result.toOption.isSome = true := by decide +kernel
  obtain ⟨hok, -⟩ := measureAdaptive_monotone sampleInvoker { program := "m" }
    { repetitions := 1 } initTime "a" 8 state hfactor (show 1 ≤ 2 by decide)
  obtain ⟨result', hresult'⟩ := Option.isSome_iff_exists.mp hresult
  obtain ⟨⟨result, _, _, h, -, -, -, -, -, -, -, hcalls⟩, -⟩ :=
    hok result' (eq_ok_of_toOption hresult')
  exact ⟨⟨hfactor, by decide⟩, by decide +kernel, by decide +kernel, result, h, hcalls⟩

end RoutineTiming
