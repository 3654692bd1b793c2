import RoutineTiming.Measuring.Adaptive
import RoutineTiming.Measuring.Capabilities
import RoutineTiming.Proofs.Attempts
import RoutineTiming.Proofs.Measuring.Sequence

/-!
# Launches and their answers

All that a session learns comes from the answers to its launches. A list of calls has its answers
from the invoker, and what is done with an answer depends on what the launch was for.

## Main definitions

* `Outcome.purposes`, `Outcome.answers` : the launches of a session and their answers.
* `Invoker.replies`, `Invoker.after` : what an invoker does on a list of calls.
* `Invocation.measurement`, `Invocation.startupTime`, `Invocation.finding` : what is read off an
  invocation.
* `measurementOf` : the measurement that an answer gives.

## Main results

* `measureOnce_eq_examine`, `runProbe_eq_examine`, `collectStartups_succ` : launches are examined.
* `measureRound_of_some`, `measureRound_of_none` : a round with and without a count.
-/

namespace RoutineTiming

/-! ### The record of a session -/

/-- What a launch was for. -/
def Event.purpose? : Event → Option Purpose
  | .launched purpose _ _ => some purpose
  | .noticed _ => none

/-- The answer to a launch. -/
def Event.answer? : Event → Option (Except BenchError Invocation)
  | .launched _ _ answer => some answer
  | .noticed _ => none

section Outcome

variable {σ α : Type}

/-- What the launches of a session were for, in order. -/
def Outcome.purposes (outcome : Outcome σ α) : List Purpose :=
  outcome.events.filterMap Event.purpose?

/-- The answers to the launches of a session, in order. -/
def Outcome.answers (outcome : Outcome σ α) : List (Except BenchError Invocation) :=
  outcome.events.filterMap Event.answer?

end Outcome

@[simp]
theorem filterMap_purpose?_noticed (notices : List Notice) :
    (notices.map Event.noticed).filterMap Event.purpose? = [] := by
  simp [List.filterMap_map, Event.purpose?]

@[simp]
theorem filterMap_answer?_noticed (notices : List Notice) :
    (notices.map Event.noticed).filterMap Event.answer? = [] := by
  simp [List.filterMap_map, Event.answer?]

@[simp]
theorem filterMap_call?_noticed (notices : List Notice) :
    (notices.map Event.noticed).filterMap Event.call? = [] := by
  simp [List.filterMap_map, Event.call?]

@[simp]
theorem filterMap_notice?_noticed (notices : List Notice) :
    (notices.map Event.noticed).filterMap Event.notice? = notices := by
  rw [List.filterMap_map]
  exact List.filterMap_some

/-! ### Invokers on lists of calls -/

namespace Invoker

variable {σ : Type}

/-- The answers to a list of calls. -/
def replies (invoker : Invoker σ) : List (List String) → σ → List (Except BenchError Invocation)
  | [], _ => []
  | args :: calls, s => (invoker args s).1 :: replies invoker calls (invoker args s).2

/-- The state of an invoker after a list of calls. -/
def after (invoker : Invoker σ) (calls : List (List String)) (s : σ) : σ :=
  calls.foldl (fun s args => (invoker args s).2) s

variable (invoker : Invoker σ)

@[simp]
theorem length_replies (calls : List (List String)) (s : σ) :
    (invoker.replies calls s).length = calls.length := by
  induction calls generalizing s with
  | nil => rfl
  | cons args calls ih => rw [replies, List.length_cons, ih, List.length_cons]

theorem replies_append (calls calls' : List (List String)) (s : σ) :
    invoker.replies (calls ++ calls') s =
      invoker.replies calls s ++ invoker.replies calls' (invoker.after calls s) := by
  induction calls generalizing s with
  | nil => rfl
  | cons args calls ih =>
    rw [List.cons_append, replies, ih, replies, List.cons_append]
    rfl

theorem after_append (calls calls' : List (List String)) (s : σ) :
    invoker.after (calls ++ calls') s = invoker.after calls' (invoker.after calls s) :=
  List.foldl_append

end Invoker

/-! ### What is read off an answer -/

/-- The measurement that an invocation of a routine gives. -/
def Invocation.measurement (routine : String) (invocation : Invocation) :
    Except BenchError Measurement := do
  invocation.ensureSuccess routine
  let output ← RoutineOutput.parseMeasurement routine invocation.stdout
  return { value := output.value, real := invocation.elapsed.seconds, user := output.user,
           diagnostics := output.diagnostics }

/-- The startup time that an invocation gives. -/
def Invocation.startupTime (runtime : Runtime) (invocation : Invocation) :
    Except BenchError Binary64 := do
  invocation.ensureSuccess runtime.init
  return invocation.elapsed.seconds

/-- Whether an invocation of a probe finds its requirement. -/
def Invocation.finding (probe : String) (invocation : Invocation) : Except BenchError Bool :=
  if trim invocation.stderr ≠ "" then
    .error (.noisyProbe probe (trim invocation.stderr))
  else do
    let output ← RoutineOutput.parse probe invocation.stdout
    return trim output.value = "1"

/-- The measurement that an answer to a launch of a routine gives. -/
def measurementOf (routine : String) (answer : Except BenchError Invocation) :
    Except BenchError Measurement :=
  answer >>= Invocation.measurement routine

/-- A process that did not fail gives a measurement if what it printed can be read. -/
theorem measurementOf_of_ok {routine : String} {invocation : Invocation} {output : RoutineOutput}
    (hsuccess : invocation.failure = none)
    (houtput : RoutineOutput.parseMeasurement routine invocation.stdout = .ok output) :
    measurementOf routine (.ok invocation) =
      .ok { value := output.value, real := invocation.elapsed.seconds, user := output.user,
            diagnostics := output.diagnostics } := by
  show Invocation.measurement routine invocation = _
  rw [Invocation.measurement, Invocation.ensureSuccess, hsuccess, houtput]
  rfl

/-! ### Sessions as examined launches -/

variable {σ : Type} (invoker : Invoker σ) (runtime : Runtime)

theorem measureOnce_eq_examine (routine : String) (size iterations : Nat) :
    measureOnce invoker runtime routine size iterations =
      Session.examine invoker runtime (.measurement routine size iterations)
        (Invocation.measurement routine) := by
  rw [measureOnce, Session.examine]
  refine bind_congr fun invocation => ?_
  simp only [Invocation.measurement, ← Session.ofExcept_bind]
  rfl

theorem runProbe_eq_examine (probe : String) :
    runProbe invoker runtime probe =
      Session.examine invoker runtime (.probe probe) (Invocation.finding probe) := by
  rw [runProbe, Session.examine]
  refine bind_congr fun invocation => ?_
  dsimp only
  rw [Invocation.finding]
  by_cases h : trim invocation.stderr ≠ ""
  · rw [if_pos h, if_pos h]
    rfl
  · rw [if_neg h, if_neg h]
    exact Session.ofExcept_bind _ _

theorem collectStartups_succ (repetitions : Nat) (times : List Binary64) :
    collectStartups invoker runtime (repetitions + 1) times =
      Session.examine invoker runtime .startup (Invocation.startupTime runtime) >>= fun time =>
        collectStartups invoker runtime repetitions (times ++ [time]) := by
  rw [collectStartups, Session.examine, bind_assoc]
  refine bind_congr fun invocation => ?_
  rw [Invocation.startupTime, ← Session.ofExcept_bind, bind_assoc]
  rfl

variable (settings : Settings) (initTime : Binary64) {routine : String} {size : Nat}
  {state : SessionState σ}

/-- A round at the count of the table. -/
theorem measureRound_of_some {iterations : Nat}
    (h : state.table.get? routine size = some iterations) :
    measureRound invoker runtime settings initTime routine size state =
      (collectSamples invoker runtime routine size iterations settings.repetitions {} >>=
        fun samples => pure (samples.aggregate iterations initTime settings.statistic)) state := by
  rw [measureRound, Session.bind_of_apply_ok (Session.table_apply state)]
  simp only [h, List.nil_append]

/-- Without a count in the table there is no round. -/
theorem measureRound_of_none (h : state.table.get? routine size = none) :
    measureRound invoker runtime settings initTime routine size state =
      ⟨.error (.planRefused (.noIterations routine size)), state, []⟩ := by
  rw [measureRound, Session.bind_of_apply_ok (Session.table_apply state)]
  simp only [h, List.nil_append, Session.fail_apply]

/-- An invoker that always prints one value. A launch with one iteration takes no longer than one
with none, and every other launch ten times as long. -/
def sampleInvoker : Invoker Unit := fun args s =>
  let milliseconds := if args[2]? = some "0" ∨ args[2]? = some "1" then 1 else 10
  (.ok { stdout := "8\n5\n", stderr := "", failure := none,
         elapsed := .ofNanoseconds (milliseconds * 10 ^ 6) }, s)

/-- What the invoker of the samples prints is a value and a time, whatever the routine. -/
theorem parse_sample (routine : String) : RoutineOutput.parse routine "8\n5\n" =
    .ok ⟨"8", Binary64.ofNat 5 / Binary64.ofNat 1000000, []⟩ := by
  have hlines : (linesOf "8\n5\n").reverse = ["5", "8"] := by decide +kernel
  have htime : readMicroseconds? "5" = some (Binary64.ofNat 5 / Binary64.ofNat 1000000) := by
    decide +kernel
  rw [RoutineOutput.parse, hlines]
  show RoutineOutput.ofLines routine "5" ["8"] = _
  rw [RoutineOutput.ofLines, htime]
  rfl

theorem parseMeasurement_sample (routine : String) :
    RoutineOutput.parseMeasurement routine "8\n5\n" =
      .ok ⟨"8", Binary64.ofNat 5 / Binary64.ofNat 1000000, []⟩ := by
  have hcount : ¬ (linesOf "8\n5\n").length < 2 := by decide +kernel
  rw [RoutineOutput.parseMeasurement, ← parse_sample routine]
  exact if_neg hcount

end RoutineTiming
