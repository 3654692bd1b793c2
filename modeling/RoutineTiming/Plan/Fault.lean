import RoutineTiming.Text.Quoted
import RoutineTiming.Text.Numeral

/-!
# What can be wrong with a plan

A plan text is refused because it is not well-formed TOML, because it does not have the shape of a
plan, or because the plan breaks one of the conditions under which it can be run. What is said of a
text that is refused as such, with the place in it, is left to the reader of TOML.

## Main definitions

* `ShapeFault` : a value in the text is not what its place asks for.
* `PlanFault` : all reasons to refuse a plan.
* `ShapeFault.message`, `PlanFault.message` : the wording.
-/

namespace RoutineTiming

/-- A value in a plan text is not what its place asks for. -/
inductive ShapeFault where
  /-- A table lacks a field that it must have. -/
  | missingField (name : String)
  /-- A table has a field that is none of those listed. -/
  | unknownField (name : String) (expected : List String)
  /-- A value is of another kind than its place asks for. -/
  | wrongKind (found expected : String)
  /-- A value of the right kind is out of range. -/
  | wrongValue (found expected : String)
  /-- An array in place of a table has too few elements. -/
  | wrongLength (found : Nat) (expected : String)
  deriving DecidableEq, Repr

namespace ShapeFault

/-- A name between grave accents. -/
def marked (name : String) : String := "\x60" ++ name ++ "\x60"

/-- The choice between names. -/
def choice : List String → String
  | [] => "there are no fields"
  | [a] => "expected " ++ marked a
  | [a, b] => "expected " ++ marked a ++ " or " ++ marked b
  | names => "expected one of " ++ ", ".intercalate (names.map marked)

/-- The fault in a line. -/
def message : ShapeFault → String
  | .missingField name => "missing field " ++ marked name
  | .unknownField name expected => "unknown field " ++ marked name ++ ", " ++ choice expected
  | .wrongKind found expected => "invalid type: " ++ found ++ ", expected " ++ expected
  | .wrongValue found expected => "invalid value: " ++ found ++ ", expected " ++ expected
  | .wrongLength found expected =>
    "invalid length " ++ numeral found ++ ", expected " ++ expected

end ShapeFault

/-- A reason to refuse a plan. -/
inductive PlanFault where
  /-- The text is not well-formed TOML. -/
  | malformed (text : String)
  /-- The text does not have the shape of a plan. -/
  | misshapen (text : String) (fault : ShapeFault)
  /-- The list of sizes is empty. -/
  | noSizes
  /-- A size is zero. -/
  | zeroSize
  /-- The sizes do not ascend strictly. -/
  | unorderedSizes (sizes : List Nat)
  /-- A family does not list one expected value per size. -/
  | expectedCount (family : String) (listed sizes : Nat)
  /-- A requirement names both checks or none. -/
  | ambiguousCheck (requirement : String)
  /-- Two routines have one name. -/
  | duplicateRoutine (routine : String)
  /-- A routine does not list one iteration count per size. -/
  | iterationCount (routine : String) (listed sizes : Nat)
  /-- A routine has an iteration count of zero. -/
  | zeroIterations (routine : String)
  /-- A routine belongs to a family without expected values. -/
  | unknownFamily (routine family : String)
  /-- A routine requires something that the plan does not describe. -/
  | unknownRequirement (routine requirement : String)
  /-- A name that was asked for is no routine of the plan. -/
  | unknownRoutine (name : String)
  /-- A pair of routine and size has no iteration count. -/
  | noIterations (routine : String) (size : Nat)
  deriving DecidableEq, Repr

/-- The wording of the fault, where it is given what the reader of TOML says of a text that it
refuses. -/
def PlanFault.message (textReport : String → String) : PlanFault → String
  | .malformed text => textReport text
  | .misshapen text _ => textReport text
  | .noSizes => "at least one size is required"
  | .zeroSize => "sizes must be non-zero"
  | .unorderedSizes sizes =>
    "sizes must be strictly ascending: [" ++ ", ".intercalate (sizes.map numeral) ++ "]"
  | .expectedCount family listed sizes =>
    "expected values for family '" ++ family ++ "' list " ++ numeral listed ++
      " entries, but there are " ++ numeral sizes ++ " sizes"
  | .ambiguousCheck requirement =>
    "optional '" ++ requirement ++ "' must set exactly one of \x60file\x60 or \x60probe\x60"
  | .duplicateRoutine routine => "routine '" ++ routine ++ "' is defined twice"
  | .iterationCount routine listed sizes =>
    "routine '" ++ routine ++ "' lists " ++ numeral listed ++
      " iteration counts, but there are " ++ numeral sizes ++ " sizes"
  | .zeroIterations routine => "routine '" ++ routine ++ "' has a zero iteration count"
  | .unknownFamily routine family =>
    "routine '" ++ routine ++ "' belongs to unknown family '" ++ family ++ "'"
  | .unknownRequirement routine requirement =>
    "routine '" ++ routine ++ "' requires unknown optional '" ++ requirement ++ "'"
  | .unknownRoutine name => "no routine named '" ++ name ++ "' in the plan"
  | .noIterations routine size =>
    "no iteration count for routine '" ++ routine ++ "' at size " ++ numeral size

end RoutineTiming
