import RoutineTiming.Proofs.Measuring.Launches

/-!
# Faulty answers

The answer to a launch is faulty if it is an error, if it tells of a failure, or if it cannot be
read. What is read off an answer fails for just these reasons, with the error that belongs to them.

## Main definitions

* `Faulty` : the faulty answers.
* `Fault` : the error that belongs to a faulty answer.

## Main results

* `finding_eq_error_iff`, `startupTime_eq_error_iff`, `measurementOf_eq_error_iff` : what is read
  off an answer fails with the error that belongs to it.
* `faulty_iff_exists_fault` : just the faulty answers have such an error.
-/

namespace RoutineTiming

/-- The answer to a launch is an error, tells of a failure or cannot be read. -/
def Faulty : Purpose → Except BenchError Invocation → Prop
  | _, .error _ => True
  | .probe probe, .ok invocation =>
    trim invocation.stderr ≠ "" ∨ ∃ e, RoutineOutput.parse probe invocation.stdout = .error e
  | .startup, .ok invocation => invocation.failure ≠ none
  | .measurement routine _ _, .ok invocation =>
    invocation.failure ≠ none ∨
      ∃ e, RoutineOutput.parseMeasurement routine invocation.stdout = .error e

/-- The error that belongs to a faulty answer. A failure comes before what cannot be read. -/
inductive Fault (runtime : Runtime) : Purpose → Except BenchError Invocation → BenchError → Prop
  | refused (purpose : Purpose) (e : BenchError) : Fault runtime purpose (.error e) e
  | noisyProbe {probe : String} {invocation : Invocation} (hnoise : trim invocation.stderr ≠ "") :
      Fault runtime (.probe probe) (.ok invocation) (.noisyProbe probe (trim invocation.stderr))
  | badProbe {probe : String} {invocation : Invocation} {fault : OutputFault}
      (hquiet : trim invocation.stderr = "")
      (hbad : RoutineOutput.parse probe invocation.stdout = .error (.badOutput probe fault)) :
      Fault runtime (.probe probe) (.ok invocation) (.badOutput probe fault)
  | failedStartup {invocation : Invocation} {status : String}
      (hstatus : invocation.failure = some status) :
      Fault runtime .startup (.ok invocation)
        (.routineFailed runtime.init status (trim invocation.stderr))
  | failedMeasurement {routine : String} {size iterations : Nat} {invocation : Invocation}
      {status : String} (hstatus : invocation.failure = some status) :
      Fault runtime (.measurement routine size iterations) (.ok invocation)
        (.routineFailed routine status (trim invocation.stderr))
  | badMeasurement {routine : String} {size iterations : Nat} {invocation : Invocation}
      {fault : OutputFault} (hsuccess : invocation.failure = none)
      (hbad : RoutineOutput.parseMeasurement routine invocation.stdout =
        .error (.badOutput routine fault)) :
      Fault runtime (.measurement routine size iterations) (.ok invocation)
        (.badOutput routine fault)

/-- Output that is refused is refused in the name of its routine. -/
theorem exists_fault_of_parse_eq_error {routine stdout : String} {e : BenchError}
    (h : RoutineOutput.parse routine stdout = .error e) :
    ∃ fault, e = .badOutput routine fault := by
  have hlines (timing : String) (earlier : List String)
      (h : RoutineOutput.ofLines routine timing earlier = .error e) :
      ∃ fault, e = .badOutput routine fault := by
    rw [RoutineOutput.ofLines] at h
    split at h
    · exact ⟨_, (Except.error.inj h).symm⟩
    · split at h <;> cases h
  rw [RoutineOutput.parse] at h
  split at h
  · exact hlines _ _ h
  · exact hlines _ _ h

theorem exists_fault_of_parseMeasurement_eq_error {routine stdout : String} {e : BenchError}
    (h : RoutineOutput.parseMeasurement routine stdout = .error e) :
    ∃ fault, e = .badOutput routine fault := by
  simp only [RoutineOutput.parseMeasurement] at h
  split at h
  · exact ⟨_, (Except.error.inj h).symm⟩
  · exact exists_fault_of_parse_eq_error h

theorem ensureSuccess_eq_error_iff {invocation : Invocation} {routine : String} {e : BenchError} :
    invocation.ensureSuccess routine = .error e ↔ ∃ status, invocation.failure = some status ∧
      e = .routineFailed routine status (trim invocation.stderr) := by
  rw [Invocation.ensureSuccess]
  cases invocation.failure with
  | none => simp
  | some status => simp [eq_comm]

theorem ensureSuccess_eq_ok_iff {invocation : Invocation} {routine : String} :
    invocation.ensureSuccess routine = .ok () ↔ invocation.failure = none := by
  rw [Invocation.ensureSuccess]
  cases invocation.failure <;> simp

section Fault

variable {runtime : Runtime} {answer : Except BenchError Invocation} {e : BenchError}

/-- A reading of answers fails with the errors that belong to them if it does so on invocations. -/
theorem fault_iff_of_ok {α : Type} {purpose : Purpose} {verdict : Invocation → Except BenchError α}
    (h : ∀ invocation, verdict invocation = .error e ↔ Fault runtime purpose (.ok invocation) e) :
    (answer >>= verdict) = .error e ↔ Fault runtime purpose answer e := by
  cases answer with
  | ok invocation => exact h invocation
  | error e' =>
    constructor
    · rintro ⟨⟩
      exact .refused _ _
    · rintro ⟨⟩
      rfl

theorem finding_eq_error_iff {probe : String} :
    (answer >>= Invocation.finding probe) = .error e ↔ Fault runtime (.probe probe) answer e := by
  refine fault_iff_of_ok fun invocation => ?_
  rw [Invocation.finding]
  by_cases hnoise : trim invocation.stderr ≠ ""
  · rw [if_pos hnoise]
    constructor
    · rintro ⟨⟩
      exact .noisyProbe hnoise
    · rintro (_ | _ | ⟨hquiet, -⟩)
      · rfl
      · exact absurd hquiet hnoise
  · rw [if_neg hnoise, bind_eq_error_iff]
    constructor
    · rintro (h | ⟨output, -, h⟩)
      · obtain ⟨fault, rfl⟩ := exists_fault_of_parse_eq_error h
        exact .badProbe (Decidable.of_not_not hnoise) h
      · cases h
    · rintro (_ | h | ⟨-, h⟩)
      · exact absurd h hnoise
      · exact .inl h

theorem startupTime_eq_error_iff :
    (answer >>= Invocation.startupTime runtime) = .error e ↔ Fault runtime .startup answer e := by
  refine fault_iff_of_ok fun invocation => ?_
  rw [Invocation.startupTime, bind_eq_error_iff, ensureSuccess_eq_error_iff]
  constructor
  · rintro (⟨status, hstatus, rfl⟩ | ⟨_, -, h⟩)
    · exact .failedStartup hstatus
    · cases h
  · rintro (_ | _ | _ | hstatus)
    exact .inl ⟨_, hstatus, rfl⟩

theorem measurementOf_eq_error_iff {routine : String} {size iterations : Nat} :
    measurementOf routine answer = .error e ↔
      Fault runtime (.measurement routine size iterations) answer e := by
  refine fault_iff_of_ok fun invocation => ?_
  rw [Invocation.measurement, bind_eq_error_iff, ensureSuccess_eq_error_iff]
  constructor
  · rintro (⟨status, hstatus, rfl⟩ | ⟨_, hsuccess, h⟩)
    · exact .failedMeasurement hstatus
    · rcases bind_eq_error_iff.mp h with h | ⟨output, -, h⟩
      · obtain ⟨fault, rfl⟩ := exists_fault_of_parseMeasurement_eq_error h
        exact .badMeasurement (ensureSuccess_eq_ok_iff.mp hsuccess) h
      · cases h
  · rintro (_ | _ | _ | _ | hstatus | ⟨hsuccess, hbad⟩)
    · exact .inl ⟨_, hstatus, rfl⟩
    · exact .inr ⟨(), ensureSuccess_eq_ok_iff.mpr hsuccess, bind_eq_error_iff.mpr (.inl hbad)⟩

variable (runtime) in
/-- Just the faulty answers have an error that belongs to them. -/
theorem faulty_iff_exists_fault {purpose : Purpose} :
    Faulty purpose answer ↔ ∃ e, Fault runtime purpose answer e := by
  constructor
  · intro h
    cases answer with
    | error e => exact ⟨e, .refused _ _⟩
    | ok invocation =>
      cases purpose with
      | probe probe =>
        by_cases hnoise : trim invocation.stderr = ""
        · obtain ⟨e, he⟩ := h.resolve_left (not_not_intro hnoise)
          obtain ⟨fault, rfl⟩ := exists_fault_of_parse_eq_error he
          exact ⟨_, .badProbe hnoise he⟩
        · exact ⟨_, .noisyProbe hnoise⟩
      | startup =>
        obtain ⟨status, hstatus⟩ := Option.ne_none_iff_exists'.mp h
        exact ⟨_, .failedStartup hstatus⟩
      | measurement routine size iterations =>
        cases hstatus : invocation.failure with
        | some status => exact ⟨_, .failedMeasurement hstatus⟩
        | none =>
          obtain ⟨e, he⟩ := h.resolve_left (not_not_intro hstatus)
          obtain ⟨fault, rfl⟩ := exists_fault_of_parseMeasurement_eq_error he
          exact ⟨_, .badMeasurement hstatus he⟩
  · rintro ⟨e, _ | hnoise | ⟨-, hbad⟩ | hstatus | hstatus | ⟨-, hbad⟩⟩
    · cases purpose <;> trivial
    · exact .inl hnoise
    · exact .inr ⟨_, hbad⟩
    · exact Option.ne_none_iff_exists'.mpr ⟨_, hstatus⟩
    · exact .inl (Option.ne_none_iff_exists'.mpr ⟨_, hstatus⟩)
    · exact .inr ⟨_, hbad⟩

end Fault

end RoutineTiming
