import RoutineTiming.OrderedMap

/-!
# Benchmark plans

A plan lists the data sizes, describes the runtime that is launched for every measurement, and names
the routines with their first iteration counts. Routines of one family return the same values, and a
routine may require something that is not present on every machine.

## Main definitions

* `SearchPath` : a search path that is placed in front of a variable.
* `Runtime` : the program to launch, its environment and the template of entry points.
* `Requirement` : how to find out whether an optional requirement is present.
* `Routine` : a routine with its iteration counts.
* `Plan` : a plan.
-/

namespace RoutineTiming

/-- A search path that is placed in front of what a variable already holds. -/
structure SearchPath where
  value : String
  separator : String := ":"
  deriving DecidableEq, Repr

/-- The program that is launched for every measurement. -/
structure Runtime where
  program : String
  /-- The arguments in front of the entry point. -/
  args : List String := []
  /-- The template of entry points. -/
  entry : String := "\x7broutine\x7d"
  /-- The routine that does nothing. -/
  init : String := "init"
  /-- The variable that holds the search path for routines. -/
  routinePathVar : String := "ydb_routines"
  /-- Variables with fixed values. -/
  env : OrderedMap String String := ∅
  /-- Search paths by the variable that they are placed in front of. -/
  prepend : OrderedMap String SearchPath := ∅
  deriving DecidableEq

/-- How to find out whether an optional requirement is present: by the existence of a file or by
a routine that says so. -/
structure Requirement where
  file : Option String := none
  probe : Option String := none
  /-- How to make the requirement available. -/
  hint : String
  deriving DecidableEq, Repr

/-- A routine to be measured. -/
structure Routine where
  name : String
  /-- The family whose expected values the routine shares. -/
  family : Option String := none
  /-- The optional requirement without which the routine is left out. -/
  requires : Option String := none
  /-- The first iteration count at each size. -/
  iterations : List Nat
  deriving DecidableEq, Repr

/-- A benchmark plan. -/
structure Plan where
  sizes : List Nat
  runtime : Runtime
  /-- The expected values of each family, one for each size. -/
  expected : OrderedMap String (List String) := ∅
  /-- The optional requirements by name. -/
  optional : OrderedMap String Requirement := ∅
  routines : List Routine := []
  deriving DecidableEq

end RoutineTiming
