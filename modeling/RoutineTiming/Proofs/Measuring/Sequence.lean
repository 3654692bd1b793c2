import RoutineTiming.Measuring.Session

/-!
# Sessions in sequence

Sessions obey the laws of a monad, and a step whose result is at hand is followed at once by what
comes after it. A launch whose answer is examined is the only way in which sessions learn anything.

## Main definitions

* `Session.examine` : a launch whose answer is examined.

## Main results

* `Session.bind_cases` : how two sessions in sequence can end.
* `Session.bind_of_apply_ok`, `Session.bind_of_apply_error` : what comes after a session that has
  ended.
* `Session.notifyAll_apply`, `Session.examine_apply` : what these sessions do.
-/

namespace RoutineTiming

namespace Session

variable {σ α β γ : Type}

theorem bind_apply_eq (first : Session σ α) (next : α → Session σ β) (state : SessionState σ) :
    (first >>= next) state =
      match (first state).result with
      | .error e => ⟨.error e, (first state).state, (first state).events⟩
      | .ok a => ⟨(next a (first state).state).result, (next a (first state).state).state,
          (first state).events ++ (next a (first state).state).events⟩ := rfl

/-- Two sessions in sequence end with the error of the first one, or as the second one does. -/
theorem bind_cases (first : Session σ α) (next : α → Session σ β) (state : SessionState σ) :
    (∃ e, (first state).result = .error e ∧
      (first >>= next) state = ⟨.error e, (first state).state, (first state).events⟩) ∨
    ∃ a, (first state).result = .ok a ∧
      (first >>= next) state = ⟨(next a (first state).state).result,
        (next a (first state).state).state,
        (first state).events ++ (next a (first state).state).events⟩ := by
  cases h : (first state).result with
  | error e => exact .inl ⟨e, rfl, bind_of_error next h⟩
  | ok a => exact .inr ⟨a, rfl, bind_of_ok next h⟩

/-- What comes after a session that has ended with a value goes on from where it ended. -/
theorem bind_of_apply_ok {first : Session σ α} {state state' : SessionState σ} {a : α}
    {events : List Event} (h : first state = ⟨.ok a, state', events⟩) (next : α → Session σ β) :
    (first >>= next) state =
      ⟨(next a state').result, (next a state').state, events ++ (next a state').events⟩ := by
  rw [bind_of_ok next (congrArg Outcome.result h), h]

/-- Nothing comes after a session that has ended with an error. -/
theorem bind_of_apply_error {first : Session σ α} {state state' : SessionState σ} {e : BenchError}
    {events : List Event} (h : first state = ⟨.error e, state', events⟩) (next : α → Session σ β) :
    (first >>= next) state = ⟨.error e, state', events⟩ := by
  rw [bind_of_error next (congrArg Outcome.result h), h]

/-- A session whose value is changed at the end. -/
theorem bind_pure_apply (first : Session σ α) (f : α → β) (state : SessionState σ) :
    (first >>= fun a => pure (f a)) state =
      ⟨(first state).result.map f, (first state).state, (first state).events⟩ := by
  rw [bind_apply_eq]
  rcases first state with ⟨e | a, s, events⟩
  · rfl
  · simp only [pure_apply, List.append_nil, Except.map]

instance : LawfulMonad (Session σ) := by
  refine LawfulMonad.mk' _ (fun x => ?_) (fun a f => rfl) fun x f g => ?_
  · funext state
    change (x >>= pure) state = x state
    rw [bind_apply_eq]
    rcases x state with ⟨e | a, s, events⟩
    · rfl
    · simp only [pure_apply, List.append_nil]
  · funext state
    simp only [bind_apply_eq]
    rcases x state with ⟨e | a, s, events⟩
    · rfl
    · dsimp only
      rcases f a s with ⟨e | b, s', events'⟩
      · rfl
      · simp only [List.append_assoc]

/-- Attempts that need no launch can be made in one. -/
theorem ofExcept_bind (x : Except BenchError α) (f : α → Except BenchError β) :
    (ofExcept x >>= fun a => ofExcept (f a) : Session σ β) = ofExcept (x >>= f) := by
  funext state
  cases x <;> rfl

@[simp]
theorem notifyAll_apply (notices : List Notice) (state : SessionState σ) :
    notifyAll notices state = ⟨.ok (), state, notices.map .noticed⟩ := by
  induction notices with
  | nil => rfl
  | cons notice rest ih =>
    rw [notifyAll, bind_of_apply_ok (notify_apply notice state), ih]
    rfl

/-- A launch whose answer is examined. -/
def examine (invoker : Invoker σ) (runtime : Runtime) (purpose : Purpose)
    (verdict : Invocation → Except BenchError α) : Session σ α := do
  let invocation ← launch invoker runtime purpose
  ofExcept (verdict invocation)

theorem examine_apply (invoker : Invoker σ) (runtime : Runtime) (purpose : Purpose)
    (verdict : Invocation → Except BenchError α) (state : SessionState σ) :
    examine invoker runtime purpose verdict state =
      ⟨(invoker (purpose.args runtime) state.invoker).1 >>= verdict,
        ⟨(invoker (purpose.args runtime) state.invoker).2, state.table⟩,
        [.launched purpose (purpose.args runtime)
          (invoker (purpose.args runtime) state.invoker).1]⟩ := by
  rw [examine, bind_apply_eq, launch_apply]
  cases (invoker (purpose.args runtime) state.invoker).1 <;> rfl

end Session

end RoutineTiming
