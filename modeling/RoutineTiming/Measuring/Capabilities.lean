import RoutineTiming.Measuring.Session
import RoutineTiming.RoutineOutput

/-!
# Which optional requirements are present

Before anything is measured, the optional requirements that routines of the plan depend on are
looked for, in the order of their names, each by the existence of its file or by a launch of its
probe. A requirement that no routine depends on is not looked for.

## Main definitions

* `Capabilities` : what was found, by requirement.
* `Capabilities.allows`, `Capabilities.hintFor` : what the finding means for a routine.
* `detect` : the search.

## Main results

* `Capabilities.has_iff`, `Capabilities.hintFor_eq_some_iff` : what the findings say.
* `Capabilities.get?_record` : the findings with one more.
-/

namespace RoutineTiming

/-- What the search for a requirement found. -/
inductive Finding where
  | present
  /-- The requirement is missing, and the hint says how to make it available. -/
  | missing (hint : String)
  deriving DecidableEq, Repr

/-- The findings for the requirements that were looked for. -/
structure Capabilities where
  findings : OrderedMap String Finding := ∅

namespace Capabilities

/-- The requirement was found. -/
def has (capabilities : Capabilities) (requirement : String) : Bool :=
  capabilities.findings.get? requirement = some .present

/-- The routine has all that it requires. -/
def allows (capabilities : Capabilities) (routine : Routine) : Bool :=
  match routine.requires with
  | some requirement => capabilities.has requirement
  | none => true

/-- How to make a requirement available that is missing. -/
def hintFor (capabilities : Capabilities) (requirement : String) : Option String :=
  match capabilities.findings.get? requirement with
  | some (.missing hint) => some hint
  | _ => none

theorem has_iff {capabilities : Capabilities} {requirement : String} :
    capabilities.has requirement = true ↔
      capabilities.findings.get? requirement = some .present :=
  decide_eq_true_iff

theorem hintFor_eq_some_iff {capabilities : Capabilities} {requirement hint : String} :
    capabilities.hintFor requirement = some hint ↔
      capabilities.findings.get? requirement = some (.missing hint) := by
  rw [hintFor]
  split
  · next h => simp [h]
  · next hother =>
    constructor
    · rintro ⟨⟩
    · exact fun h => absurd h (hother hint)

/-- The findings with one more. -/
def record (capabilities : Capabilities) (name : String) (finding : Finding) : Capabilities :=
  ⟨capabilities.findings.insert name finding⟩

theorem get?_record (capabilities : Capabilities) (name : String) (finding : Finding)
    (requirement : String) : (capabilities.record name finding).findings.get? requirement =
      if requirement = name then some finding else capabilities.findings.get? requirement :=
  OrderedMap.get?_insert capabilities.findings name requirement finding

end Capabilities

variable {σ : Type}

/-- The launch of a probe. It finds its requirement if it prints the value `1`. Text on its standard
error ends the session, unless it is blank. -/
def runProbe (invoker : Invoker σ) (runtime : Runtime) (probe : String) : Session σ Bool := do
  let invocation ← Session.launch invoker runtime (.probe probe)
  let complaint := trim invocation.stderr
  if complaint ≠ "" then
    Session.fail (.noisyProbe probe complaint)
  else
    let output ← Session.ofExcept (RoutineOutput.parse probe invocation.stdout)
    return trim output.value = "1"

/-- The search for one requirement. -/
def Requirement.isPresent (requirement : Requirement) (invoker : Invoker σ) (runtime : Runtime)
    (fileExists : σ → String → Bool) : Session σ Bool :=
  match requirement.file, requirement.probe with
  | some path, _ => Session.ask fun state => fileExists state path
  | none, some probe => runProbe invoker runtime probe
  | none, none => pure false

/-- The search for requirements one after the other, on top of earlier findings. -/
def lookFor (invoker : Invoker σ) (runtime : Runtime) (fileExists : σ → String → Bool) :
    List (String × Requirement) → Capabilities → Session σ Capabilities
  | [], found => pure found
  | (name, requirement) :: rest, found => do
    let present ← requirement.isPresent invoker runtime fileExists
    let finding := if present then Finding.present else .missing requirement.hint
    lookFor invoker runtime fileExists rest (found.record name finding)

/-- A routine of the plan depends on the requirement. -/
def Plan.needs (plan : Plan) (requirement : String) : Bool :=
  plan.routines.any fun routine => routine.requires = some requirement

/-- The search for all requirements that routines of a plan depend on. -/
def detect (plan : Plan) (invoker : Invoker σ) (fileExists : σ → String → Bool) :
    Session σ Capabilities :=
  lookFor invoker plan.runtime fileExists
    (plan.optional.entries.filter fun (name, _) => plan.needs name) {}

end RoutineTiming
