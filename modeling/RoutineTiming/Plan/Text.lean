import RoutineTiming.Plan.Shape
import RoutineTiming.Plan.Validation
import RoutineTiming.Toml.Grammar

/-!
# The text of a plan

A plan is written as a TOML document. This module gives the fields of its records, and reads and
checks a whole plan.

## Main definitions

* `Plan.shape` : the shape of a plan.
* `Plan.ofText` : the plan that a text denotes, if it can be run.
-/

namespace RoutineTiming

/-- The shape of a search path. -/
def SearchPath.shape : Shape SearchPath :=
  .record "PrependPath" [.ofShape "value" Shape.text, .ofShape "separator" Shape.text]
    fun record => do
      let value ← record.required "value" Shape.text
      let separator ← record.withDefault "separator" ":" Shape.text
      return { value, separator }

/-- The shape of a runtime. -/
def Runtime.shape : Shape Runtime :=
  .record "RuntimeConfig"
    [.ofShape "program" Shape.text, .ofShape "args" (Shape.list Shape.text),
      .ofShape "entry" Shape.text, .ofShape "init" Shape.text,
      .ofShape "routine_path_var" Shape.text, .ofShape "env" (Shape.table Shape.text),
      .ofShape "prepend" (Shape.table SearchPath.shape)]
    fun record => do
      let program ← record.required "program" Shape.text
      let args ← record.withDefault "args" [] (Shape.list Shape.text)
      let entry ← record.withDefault "entry" "\x7broutine\x7d" Shape.text
      let init ← record.withDefault "init" "init" Shape.text
      let routinePathVar ← record.withDefault "routine_path_var" "ydb_routines" Shape.text
      let env ← record.withDefault "env" ∅ (Shape.table Shape.text)
      let prepend ← record.withDefault "prepend" ∅ (Shape.table SearchPath.shape)
      return { program, args, entry, init, routinePathVar, env, prepend }

/-- The shape of an optional requirement. -/
def Requirement.shape : Shape Requirement :=
  .record "Requirement"
    [.ofShape "file" Shape.path, .ofShape "probe" Shape.text, .ofShape "hint" Shape.text]
    fun record => do
      let file ← record.optional "file" Shape.path
      let probe ← record.optional "probe" Shape.text
      let hint ← record.required "hint" Shape.text
      return { file, probe, hint }

/-- The shape of a routine. -/
def Routine.shape : Shape Routine :=
  .record "RoutineSpec"
    [.ofShape "name" Shape.text, .ofShape "family" Shape.text, .ofShape "requires" Shape.text,
      .ofShape "iterations" (Shape.list Shape.count)]
    fun record => do
      let name ← record.required "name" Shape.text
      let family ← record.optional "family" Shape.text
      let requires ← record.optional "requires" Shape.text
      let iterations ← record.required "iterations" (Shape.list Shape.count)
      return { name, family, requires, iterations }

namespace Plan

/-- The shape of a plan. -/
def shape : Shape Plan :=
  .record "Plan"
    [.ofShape "sizes" (Shape.list Shape.count), .ofShape "runtime" Runtime.shape,
      .ofShape "expected" (Shape.table (Shape.list Shape.text)),
      .ofShape "optional" (Shape.table Requirement.shape),
      .ofShape "routine" (Shape.list Routine.shape)]
    fun record => do
      let sizes ← record.required "sizes" (Shape.list Shape.count)
      let runtime ← record.required "runtime" Runtime.shape
      let expected ← record.withDefault "expected" ∅ (Shape.table (Shape.list Shape.text))
      let optional ← record.withDefault "optional" ∅ (Shape.table Requirement.shape)
      let routines ← record.withDefault "routine" [] (Shape.list Routine.shape)
      return { sizes, runtime, expected, optional, routines }

/-- The plan that a text denotes, if it can be run. -/
def ofText (text : String) : Except BenchError Plan := do
  let entries ←
    match Toml.readDocument? text with
    | some entries => pure entries
    | none => .error (.planRefused (.malformed text))
  let plan ←
    match shape (.table entries) with
    | .ok plan => pure plan
    | .error fault => .error (.planRefused (.misshapen text fault))
  plan.validate
  return plan

end Plan

end RoutineTiming
