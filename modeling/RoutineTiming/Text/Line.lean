import RoutineTiming.Text.Blank

/-!
# Lines of a text

A line ends at a line feed, and a carriage return directly before the line feed belongs to the
ending. A line feed at the end of the text does not begin another line.

## Main definitions

* `linesOf` : the lines of a text.
* `dropReturns` : a line without the carriage returns at its end.
-/

namespace RoutineTiming

/-- The lines of `rest`, the first of which begins with the characters of `current`, the latest
first. -/
def cutLines (current : List Char) : (rest : List Char) → List (List Char)
  | [] => if current = [] then [] else [current.reverse]
  | c :: rest =>
    if c = '\n' then
      let line :=
        match current with
        | '\r' :: earlier => earlier
        | all => all
      line.reverse :: cutLines [] rest
    else
      cutLines (c :: current) rest

/-- The lines of a text, without their endings. -/
def linesOf (text : String) : List String := (cutLines [] text.toList).map String.ofList

/-- A line without the carriage returns at its end. -/
def dropReturns (line : String) : String :=
  String.ofList (dropTrailing (· = '\r') line.toList)

end RoutineTiming
