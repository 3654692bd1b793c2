import RoutineTiming.Plan.Tables
import RoutineTiming.Text.Blank

/-!
# Verdicts on returned values

The value that a routine returned is held against the value that its family is expected to return,
if the plan gives one. Blanks around either value do not count.

## Main definitions

* `Verdict` : a returned value beside the expected one.
* `ExpectedTable.check` : the verdict on the value of a routine at a size.
-/

namespace RoutineTiming

/-- A returned value beside the expected one. -/
inductive Verdict where
  /-- No value is expected. -/
  | unchecked
  | agrees
  | differs (expected : String)
  deriving DecidableEq, Repr

/-- Whether the value is the expected one, if one is known. -/
def Verdict.verified : Verdict → Option Bool
  | .unchecked => none
  | .agrees => some true
  | .differs _ => some false

/-- The verdict on the value that a routine returned at a size. -/
def ExpectedTable.check (table : ExpectedTable) (routine : String) (size : Nat)
    (observed : String) : Verdict :=
  match table.get? routine size with
  | none => .unchecked
  | some expected => if trim expected = trim observed then .agrees else .differs expected

/-- A value differs only from the expected one. -/
theorem ExpectedTable.get?_of_check_eq_differs {table : ExpectedTable} {routine : String}
    {size : Nat} {observed expected : String}
    (h : table.check routine size observed = .differs expected) :
    table.get? routine size = some expected := by
  rw [check] at h
  split at h
  · cases h
  · next heq =>
    split at h <;> cases h
    exact heq

end RoutineTiming
