import RoutineTiming.Report.Magnitude
import RoutineTiming.ResultsMatrix
import RoutineTiming.Text.Painted

/-!
# Tables of results

A table shows one time of every cell of a results matrix: a title, a header line with the sizes and
a line per routine, with a dash where nothing was measured. The columns are as wide as their widest
text counted in UTF-8 bytes and are filled up with spaces. There is a width above which texts cannot
be filled up, and a table with a wider column cannot be printed.

## Main definitions

* `padRight`, `padLeft` : a text filled up with spaces to a number of characters.
* `ResultsMatrix.nameWidth`, `ResultsMatrix.cellWidth` : the widths of the columns.
* `resultsTable` : the table of one time of each cell.
* `fullReport` : the tables of real and of user time.
* `ResultsMatrix.FitsTable` : no column of a table is too wide.
* `fullReport?` : the tables, if they can be printed.
-/

namespace RoutineTiming

/-! ### Columns -/

/-- The greatest width up to which texts can be filled up. -/
def widthLimit : Nat := 65535

/-- The text with spaces behind it up to `width` characters, where the width is at most `widthLimit`
in whatever is printed. -/
def padRight (width : Nat) (text : String) : String :=
  text ++ String.ofList (List.replicate (width - text.length) ' ')

/-- The text with spaces in front of it up to `width` characters, where the width is at most
`widthLimit` in whatever is printed. -/
def padLeft (width : Nat) (text : String) : String :=
  String.ofList (List.replicate (width - text.length) ' ') ++ text

/-- The largest number of UTF-8 bytes in any of the texts. -/
def widest (texts : List String) : Nat :=
  texts.foldl (fun width text => Nat.max width text.utf8ByteSize) 0

/-- A cell of a column, two spaces from what stands before it. -/
def tableCell (width : Nat) (text : String) : String := "  " ++ padLeft width text

/-! ### Tables -/

/-- The text of a cell of the matrix, a dash if it is missing. -/
def cellText (pick : CellResult → Binary64) (row : ResultsRow) (size : Nat) : String :=
  match row.get? size with
  | some result => wholeMicroseconds (pick result)
  | none => "-"

/-- What the header line shows of the sizes. -/
def sizeHeaders (sizes : List Nat) : List String :=
  sizes.map fun size => humanMagnitude (Binary64.ofNat size)

/-- The header line of the table. -/
def tableHeader (nameWidth cellWidth : Nat) (sizes : List Nat) : String :=
  padRight nameWidth "routine" ++ String.join ((sizeHeaders sizes).map (tableCell cellWidth))

/-- The line of a routine in the table. -/
def tableLine (colored : Bool) (nameWidth cellWidth : Nat) (name : String)
    (cells : List String) : String :=
  Paint.cyan.apply colored (padRight nameWidth name) ++
    String.join (cells.map (tableCell cellWidth))

namespace ResultsMatrix

variable (matrix : ResultsMatrix) (pick : CellResult → Binary64) (sizes : List Nat)

/-- The width of the column of names. -/
def nameWidth : Nat := widest ("routine" :: matrix.rows.map Prod.fst)

/-- The width of the columns of cells. -/
def cellWidth : Nat :=
  widest (sizeHeaders sizes ++ matrix.rows.flatMap fun (_, row) => sizes.map (cellText pick row))

/-- No column of the table is wider than texts can be filled up. -/
def FitsTable : Prop :=
  matrix.nameWidth ≤ widthLimit ∧ matrix.cellWidth pick sizes ≤ widthLimit

instance : Decidable (matrix.FitsTable pick sizes) := inferInstanceAs (Decidable (_ ∧ _))

end ResultsMatrix

/-- The title, the header line and a line per routine, each ended by a line feed. -/
def resultsTable (colored : Bool) (title : String) (sizes : List Nat) (matrix : ResultsMatrix)
    (pick : CellResult → Binary64) : String :=
  let nameWidth := matrix.nameWidth
  let cellWidth := matrix.cellWidth pick sizes
  Paint.bold.apply colored title ++ "\n" ++
    Paint.faint.apply colored (tableHeader nameWidth cellWidth sizes) ++ "\n" ++
    String.join (matrix.rows.map fun (name, row) =>
      tableLine colored nameWidth cellWidth name (sizes.map (cellText pick row)) ++ "\n")

/-- The table of real times and the table of user times, each after an empty line. -/
def fullReport (colored : Bool) (sizes : List Nat) (matrix : ResultsMatrix) : String :=
  "\n" ++ resultsTable colored "Real time per iteration" sizes matrix
      CellResult.realPerIteration ++
    "\n" ++ resultsTable colored "User time per iteration" sizes matrix
      CellResult.userPerIteration

/-- The two tables, if both can be printed. -/
def fullReport? (colored : Bool) (sizes : List Nat) (matrix : ResultsMatrix) : Option String :=
  if matrix.FitsTable CellResult.realPerIteration sizes ∧
      matrix.FitsTable CellResult.userPerIteration sizes then
    some (fullReport colored sizes matrix)
  else
    none

end RoutineTiming
