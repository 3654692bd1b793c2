import RoutineTiming.IterationTable
import RoutineTiming.Plan.Basic

/-!
# The tables of a plan

A plan gives a table of first iteration counts and a table of expected values, both by routine and
size.

## Main definitions

* `Plan.iterationTable` : the first iteration counts.
* `ExpectedTable`, `Plan.expectedTable` : the expected values.
-/

namespace RoutineTiming

/-- The iteration counts of a routine set in a table. -/
def IterationTable.seed (table : IterationTable) (sizes : List Nat) (routine : Routine) :
    IterationTable :=
  (sizes.zip routine.iterations).foldl
    (fun table (size, count) => table.set routine.name size count) table

/-- The first iteration counts of all routines. -/
def Plan.iterationTable (plan : Plan) : IterationTable :=
  plan.routines.foldl (fun table routine => table.seed plan.sizes routine) {}

/-- Expected values by routine and size. -/
structure ExpectedTable where
  rows : OrderedMap String (OrderedMap Nat String) := ∅

/-- The expected value of a routine at a size, if one is known. -/
def ExpectedTable.get? (table : ExpectedTable) (routine : String) (size : Nat) : Option String :=
  (table.rows.get? routine).bind fun row => row.get? size

/-- The expected values of a family by size. -/
def Plan.familyRow (plan : Plan) (family : String) : Option (OrderedMap Nat String) :=
  (plan.expected.get? family).map fun values => .ofList (plan.sizes.zip values)

/-- The expected values of all routines that belong to a family. -/
def Plan.expectedTable (plan : Plan) : ExpectedTable where
  rows := .ofList <| plan.routines.filterMap fun routine =>
    (routine.family.bind plan.familyRow).map fun row => (routine.name, row)

end RoutineTiming
