import RoutineTiming.Invocation
import RoutineTiming.IterationTable
import RoutineTiming.Measuring.Purpose
import RoutineTiming.Report.Console

/-!
# Sessions

A session launches the runtime again and again, adapts the iteration counts on the way, and gives
notices. It ends with a value or an error, and leaves behind the state of the invoker, the iteration
counts, and the record of all that happened, in order.

## Main definitions

* `Event` : a launch with its answer, or a notice.
* `SessionState` : the state of the invoker and the iteration counts.
* `Outcome` : how a session ended, with `Outcome.calls` and `Outcome.notices`.
* `Session` : the sessions, which form a monad.
* `Session.launch`, `Session.notify`, `Session.fail` : the steps of a session.

## Main results

* `Session.bind_of_error`, `Session.bind_of_ok` : what two sessions in sequence do.
-/

namespace RoutineTiming

/-- Something that happened in a session. -/
inductive Event where
  /-- The runtime was launched for a purpose with arguments and gave an answer. -/
  | launched (purpose : Purpose) (args : List String) (answer : Except BenchError Invocation)
  | noticed (notice : Notice)

/-- The state of an invoker together with the iteration counts. -/
structure SessionState (σ : Type) where
  invoker : σ
  table : IterationTable := {}

/-- How a session ended, and what it left behind. -/
structure Outcome (σ α : Type) where
  result : Except BenchError α
  state : SessionState σ
  events : List Event := []

/-- The arguments of a launch. -/
def Event.call? : Event → Option (List String)
  | .launched _ args _ => some args
  | .noticed _ => none

/-- What was noticed. -/
def Event.notice? : Event → Option Notice
  | .launched _ _ _ => none
  | .noticed notice => some notice

/-- The arguments of all launches of a session in order. -/
def Outcome.calls {σ α : Type} (outcome : Outcome σ α) : List (List String) :=
  outcome.events.filterMap Event.call?

/-- All notices of a session in order. -/
def Outcome.notices {σ α : Type} (outcome : Outcome σ α) : List Notice :=
  outcome.events.filterMap Event.notice?

/-- A course of launches and notices that ends with a value or an error. -/
def Session (σ α : Type) := SessionState σ → Outcome σ α

namespace Session

variable {σ α β : Type}

/-- The session that ends at once with a value. -/
protected def pure (a : α) : Session σ α := fun state => ⟨.ok a, state, []⟩

/-- The first session and then, if it ends with a value, the session for that value. -/
protected def bind (first : Session σ α) (next : α → Session σ β) : Session σ β := fun state =>
  let outcome := first state
  match outcome.result with
  | .error e => ⟨.error e, outcome.state, outcome.events⟩
  | .ok a =>
    let rest := next a outcome.state
    ⟨rest.result, rest.state, outcome.events ++ rest.events⟩

instance : Monad (Session σ) where
  pure := Session.pure
  bind := Session.bind

@[simp]
theorem pure_apply (a : α) (state : SessionState σ) :
    (pure a : Session σ α) state = ⟨.ok a, state, []⟩ := rfl

theorem bind_apply (first : Session σ α) (next : α → Session σ β) (state : SessionState σ) :
    (first >>= next) state = Session.bind first next state := rfl

/-- A session that ends with an error ends what would come after it. -/
theorem bind_of_error {first : Session σ α} {state : SessionState σ} {e : BenchError}
    (next : α → Session σ β) (h : (first state).result = .error e) :
    (first >>= next) state = ⟨.error e, (first state).state, (first state).events⟩ := by
  simp only [bind_apply, Session.bind, h]

/-- A session that ends with a value is followed by the session for that value. -/
theorem bind_of_ok {first : Session σ α} {state : SessionState σ} {a : α}
    (next : α → Session σ β) (h : (first state).result = .ok a) :
    (first >>= next) state =
      ⟨(next a (first state).state).result, (next a (first state).state).state,
        (first state).events ++ (next a (first state).state).events⟩ := by
  simp only [bind_apply, Session.bind, h]

/-! ### Steps -/

/-- The session that ends at once as given. -/
def ofExcept (result : Except BenchError α) : Session σ α := fun state => ⟨result, state, []⟩

/-- The session that ends at once with an error. -/
def fail (e : BenchError) : Session σ α := ofExcept (.error e)

/-- One launch; an error of the invoker ends the session. -/
def launch (invoker : Invoker σ) (runtime : Runtime) (purpose : Purpose) :
    Session σ Invocation := fun state =>
  let args := purpose.args runtime
  let (answer, next) := invoker args state.invoker
  ⟨answer, { state with invoker := next }, [.launched purpose args answer]⟩

/-- The answer to a question about the state of the invoker. -/
def ask (question : σ → α) : Session σ α := fun state => ⟨.ok (question state.invoker), state, []⟩

/-- One notice. -/
def notify (notice : Notice) : Session σ Unit := fun state => ⟨.ok (), state, [.noticed notice]⟩

/-- The iteration counts. -/
def table : Session σ IterationTable := fun state => ⟨.ok state.table, state, []⟩

/-- A change of the iteration counts. -/
def modifyTable (change : IterationTable → IterationTable) : Session σ Unit := fun state =>
  ⟨.ok (), { state with table := change state.table }, []⟩

/-- Several notices, one after the other. -/
def notifyAll : List Notice → Session σ Unit
  | [] => pure ()
  | notice :: rest => do
    notify notice
    notifyAll rest

@[simp]
theorem ofExcept_apply (result : Except BenchError α) (state : SessionState σ) :
    ofExcept result state = ⟨result, state, []⟩ := rfl

@[simp]
theorem fail_apply (e : BenchError) (state : SessionState σ) :
    (fail e : Session σ α) state = ⟨.error e, state, []⟩ := rfl

@[simp]
theorem launch_apply (invoker : Invoker σ) (runtime : Runtime) (purpose : Purpose)
    (state : SessionState σ) :
    launch invoker runtime purpose state =
      ⟨(invoker (purpose.args runtime) state.invoker).1,
        ⟨(invoker (purpose.args runtime) state.invoker).2, state.table⟩,
        [.launched purpose (purpose.args runtime)
          (invoker (purpose.args runtime) state.invoker).1]⟩ := rfl

@[simp]
theorem notify_apply (notice : Notice) (state : SessionState σ) :
    notify notice state = ⟨.ok (), state, [.noticed notice]⟩ := rfl

@[simp]
theorem table_apply (state : SessionState σ) : table state = ⟨.ok state.table, state, []⟩ := rfl

@[simp]
theorem modifyTable_apply (change : IterationTable → IterationTable) (state : SessionState σ) :
    modifyTable change state = ⟨.ok (), ⟨state.invoker, change state.table⟩, []⟩ := rfl

end Session

end RoutineTiming
