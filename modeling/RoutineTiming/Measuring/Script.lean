import RoutineTiming.Invocation
import RoutineTiming.Text.Numeral

/-!
# Scripted invokers

A script stands in for the runtime. Its rules say which launches they answer and with what; a rule
answers its first launch with its first reply, its second one with its second, and goes on with its
last reply when there are no more.

## Main definitions

* `Script.Reply` : an answer to a launch.
* `Script.Rule` : the launches that a rule answers, and its replies.
* `Script.invoker` : the invoker of a script.
-/

namespace RoutineTiming.Script

/-- An answer to a launch. -/
inductive Reply where
  | cancelled
  /-- The launch fails for a reason in words. -/
  | refused (reason : String)
  /-- The process ends. It takes some nanoseconds for itself and some for each iteration. -/
  | finished (stdout stderr : List UInt8) (failure : Option String)
      (nanoseconds perIteration : Nat)

/-- The launches that a rule answers, by those of their arguments that it gives, and the replies in
order. -/
structure Rule where
  entry : Option String := none
  size : Option String := none
  iterations : Option String := none
  replies : List Reply

/-- The argument is the one that is asked for, if one is. -/
def fits (wanted : Option String) (argument : Option String) : Bool :=
  match wanted with
  | some text => argument = some text
  | none => true

/-- The rule answers a launch with the arguments. -/
def Rule.answers (rule : Rule) (args : List String) : Bool :=
  fits rule.entry args[0]? && fits rule.size args[1]? && fits rule.iterations args[2]?

/-- The reply of a rule that was used a number of times before. -/
def Rule.reply? (rule : Rule) (used : Nat) : Option Reply :=
  rule.replies[used]?.or rule.replies.getLast?

/-- The nanoseconds of a launch; the count of iterations is the third argument. -/
def elapsed (args : List String) (nanoseconds perIteration : Nat) : Duration :=
  let iterations := ((args[2]?.bind (readNumeral? maxWord))).getD 0
  .ofNanoseconds (Nat.min (nanoseconds + perIteration * iterations) maxWord)

/-- The answer that a reply gives to a launch. -/
def Reply.answer (reply : Reply) (args : List String) : Except BenchError Invocation :=
  match reply with
  | .cancelled => .error .cancelled
  | .refused reason => .error (.launchFailed "scripted" (.described reason))
  | .finished stdout stderr failure nanoseconds perIteration => do
    let context := args.head?.getD ""
    let stdout ← decodeOutput context stdout
    let stderr ← decodeOutput context stderr
    return { stdout, stderr, elapsed := elapsed args nanoseconds perIteration, failure }

/-- The invoker of a script; its state holds for each rule how often it was used. -/
def invoker (rules : List Rule) : Invoker (List Nat) := fun args uses =>
  match rules.findIdx? fun rule => rule.answers args with
  | none => (.error (.launchFailed "scripted" (.described "no rule")), uses)
  | some index =>
    let used := uses[index]?.getD 0
    match (rules[index]?).bind fun rule => rule.reply? used with
    | none => (.error (.launchFailed "scripted" (.described "no rule")), uses)
    | some reply => (reply.answer args, uses.set index (used + 1))

/-- The state of the invoker before the first launch. -/
def unused (rules : List Rule) : List Nat := rules.map fun _ => 0

end RoutineTiming.Script
