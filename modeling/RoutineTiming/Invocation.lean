import RoutineTiming.BenchError
import RoutineTiming.Measurement
import RoutineTiming.Text.Blank

/-!
# Invocations

An invocation is one finished process: what it wrote, how long it took, and how it failed, if it
did. An invoker answers a list of arguments with an invocation or an error, and may remember
earlier calls in its state.

## Main definitions

* `Invocation` : a finished process.
* `Invocation.ensureSuccess` : a failure as an error.
* `decodeOutput` : the text of what a process wrote.
* `Invoker` : a way to answer arguments.
-/

namespace RoutineTiming

/-- A finished process. -/
structure Invocation where
  stdout : String
  stderr : String
  /-- The time from start to exit. -/
  elapsed : Duration
  /-- How the process failed, if it did. -/
  failure : Option String

/-- An invocation that failed is an error of the given routine. -/
def Invocation.ensureSuccess (invocation : Invocation) (routine : String) :
    Except BenchError Unit :=
  match invocation.failure with
  | none => .ok ()
  | some status => .error (.routineFailed routine status (trim invocation.stderr))

/-- The text of the bytes that a process wrote. -/
def decodeOutput (context : String) (bytes : List UInt8) : Except BenchError String :=
  match String.fromUTF8? ⟨bytes.toArray⟩ with
  | some text => .ok text
  | none => .error (.undecodable context bytes)

/-- A way to answer a list of arguments, of which the entry point is the first, with an
invocation. -/
abbrev Invoker (σ : Type) := List String → σ → Except BenchError Invocation × σ

end RoutineTiming
