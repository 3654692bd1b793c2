import RoutineTiming.BenchError
import RoutineTiming.Plan.Basic

/-!
# The conditions on a plan

A plan can be run if its sizes ascend strictly and are not zero, if every list that has an entry for
each size has as many entries as there are sizes, and if every name that it uses is described. The
violations are listed in a fixed order, and the first of them is reported.

## Main definitions

* `Plan.faults` : the violations of a plan in order.
* `Plan.validate` : the first violation, if there is one.
* `Plan.retain` : the plan with the named routines only.
* `Plan.narrow` : the same for the plan at hand.
-/

namespace RoutineTiming

/-- Every number is less than the next one. -/
def ascends : List Nat → Bool
  | [] => true
  | [_] => true
  | a :: b :: rest => a < b && ascends (b :: rest)

namespace Plan

/-- The fault, if the condition that it names is violated. -/
def faultIf (violated : Bool) (fault : PlanFault) : List PlanFault :=
  if violated then [fault] else []

/-- What is wrong with the sizes. -/
def sizeFaults (plan : Plan) : List PlanFault :=
  faultIf plan.sizes.isEmpty .noSizes ++
    faultIf (plan.sizes.contains 0) .zeroSize ++
    faultIf (!ascends plan.sizes) (.unorderedSizes plan.sizes)

/-- What is wrong with the expected values of a family. -/
def familyFaults (plan : Plan) (family : String) (values : List String) : List PlanFault :=
  faultIf (values.length ≠ plan.sizes.length)
    (.expectedCount family values.length plan.sizes.length)

/-- What is wrong with an optional requirement. -/
def requirementFaults (name : String) (requirement : Requirement) : List PlanFault :=
  faultIf (requirement.file.isSome = requirement.probe.isSome) (.ambiguousCheck name)

/-- What is wrong with a routine behind routines with the given names. -/
def routineFaults (plan : Plan) (earlier : List String) (routine : Routine) : List PlanFault :=
  faultIf (earlier.contains routine.name) (.duplicateRoutine routine.name) ++
    faultIf (routine.iterations.length ≠ plan.sizes.length)
      (.iterationCount routine.name routine.iterations.length plan.sizes.length) ++
    faultIf (routine.iterations.contains 0) (.zeroIterations routine.name) ++
    (match routine.family with
      | some family =>
        faultIf (!plan.expected.contains family) (.unknownFamily routine.name family)
      | none => []) ++
    (match routine.requires with
      | some requirement =>
        faultIf (!plan.optional.contains requirement)
          (.unknownRequirement routine.name requirement)
      | none => [])

/-- What is wrong with routines behind routines with the given names. -/
def routinesFaults (plan : Plan) (earlier : List String) : List Routine → List PlanFault
  | [] => []
  | routine :: rest =>
    plan.routineFaults earlier routine ++ plan.routinesFaults (earlier ++ [routine.name]) rest

/-- What is wrong with a plan, in the order of its parts. -/
def faults (plan : Plan) : List PlanFault :=
  plan.sizeFaults ++
    plan.expected.entries.flatMap (fun (family, values) => plan.familyFaults family values) ++
    plan.optional.entries.flatMap (fun (name, requirement) =>
      requirementFaults name requirement) ++
    plan.routinesFaults [] plan.routines

/-- The first thing that is wrong with a plan is an error. -/
def validate (plan : Plan) : Except BenchError Unit :=
  match plan.faults with
  | [] => .ok ()
  | fault :: _ => .error (.planRefused fault)

/-- The plan has a routine of the given name. -/
def hasRoutine (plan : Plan) (name : String) : Bool :=
  plan.routines.any fun routine => routine.name = name

/-- The plan with the named routines only, in the order of the plan; a name that is no routine of
the plan is an error. -/
def retain (plan : Plan) (names : List String) : Except BenchError Plan :=
  match names.find? fun name => !plan.hasRoutine name with
  | some name => .error (.planRefused (.unknownRoutine name))
  | none =>
    .ok { plan with routines := plan.routines.filter fun routine => names.contains routine.name }

/-- Narrows the plan at hand to the named routines, in the order of the plan. All names are looked
up first, and a name that is no routine of the plan is an error. -/
def narrow (names : List String) : StateM Plan (Except BenchError Unit) := do
  let plan ← get
  match names.find? fun name => !plan.hasRoutine name with
  | some name => return .error (.planRefused (.unknownRoutine name))
  | none =>
    set { plan with routines := plan.routines.filter fun routine => names.contains routine.name }
    return .ok ()

end Plan

end RoutineTiming
