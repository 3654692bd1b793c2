import RoutineTiming.Plan.Basic

/-!
# Entry points

The entry point of a routine is the template of the runtime with the name of the routine in every
place where the template has the placeholder. The placeholders are found from left to right, do not
overlap, and are not looked for again in the result.

## Main definitions

* `templatePieces` : the pieces of a template between its placeholders.
* `Runtime.entryFor` : the entry point of a routine.
-/

namespace RoutineTiming

/-- What stands in a template for the name of a routine. -/
def placeholder : List Char := "\x7broutine\x7d".toList

/-- The pieces between the placeholders of a template, of which the first `skip` characters belong
to a placeholder already found. -/
def piecesAfter : (skip : Nat) → (template : List Char) → List (List Char)
  | _, [] => [[]]
  | skip + 1, _ :: rest => piecesAfter skip rest
  | 0, c :: rest =>
    if placeholder.isPrefixOf (c :: rest) then
      [] :: piecesAfter (placeholder.length - 1) rest
    else
      match piecesAfter 0 rest with
      | piece :: pieces => (c :: piece) :: pieces
      | [] => [[c]]

/-- The pieces of a template between its placeholders. -/
def templatePieces (template : String) : List String :=
  (piecesAfter 0 template.toList).map String.ofList

/-- The entry point of a routine. -/
def Runtime.entryFor (runtime : Runtime) (routine : String) : String :=
  routine.intercalate (templatePieces runtime.entry)

end RoutineTiming
