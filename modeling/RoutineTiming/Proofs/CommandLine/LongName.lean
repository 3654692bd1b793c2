import Mathlib
import RoutineTiming.Proofs.CommandLine.AllOrNothing
import RoutineTiming.Proofs.Measuring.Rounds

/-!
# Routines with names of any length

The name of a routine is read from the text of a plan whatever its length, and the routine is
measured. Whether the tables with it can be printed depends on its length.

## Main definitions

* `namedText`, `namedPlan` : a plan with one routine, by the name of the routine.
* `sampleMeasurement` : what one launch measures.

## Main results

* `Toml.readValue_literal` : texts between single quotes.
* `ofText_namedText` : the plan that the text denotes.
* `exists_report_of_clear` : a plan with one cell is measured if its first round is not swamped.
* `code_carryOut_namedText` : how the program ends, by the length of the name.
* `runProgram_breaks_off` : a name that is too long.
-/

namespace RoutineTiming

/-! ### Reading the name -/

namespace Toml

variable {name rest : List Char}

end Toml

section

open Toml

end

/-! ### Measuring the routine -/

section

variable {settings : Settings} (h : settings.repetitions = 1) {state : SessionState Unit}

include h

end

/-! ### The whole program -/

section

open Toml

variable {name : List Char} (hplain : ∀ c ∈ name, isPlain '\'' false c = true) (hne : name ≠ [])

include hplain hne

end

end RoutineTiming
