import RoutineTiming.Proofs.Binary64.Amount
import RoutineTiming.Report.Document
import RoutineTiming.Report.Table

/-!
# The numbers of a report

A report writes numbers in two ways: a document holds them as they are, and has `null` for those
that are not finite; a table shows whole microseconds.

## Main definitions

* `Json.numbers` : the numbers that stand anywhere in a document.

## Main results

* `Json.numberText_eq_null_iff` : just the numbers that are not finite become `null`.
* `numbers_reportDocument` : the numbers of the document of a run.
* `Binary64.IsAmount.exists_wholeMicroseconds` : an amount is shown as a natural number.
-/

namespace RoutineTiming

/-! ### Numbers in JSON -/

theorem not_mem_digitsOf (n : Nat) : 'n' ∉ digitsOf n := fun h =>
  absurd (Nat.isDigit_of_mem_toDigits (by decide) (Nat.le_refl 10) h) (by decide)

namespace DecimalLayout

theorem not_mem_positional {digits : List Char} (h : 'n' ∉ digits) (power : Int) :
    'n' ∉ positional digits power := by
  have hpadded (count : Nat) : 'n' ∉ digits ++ List.replicate count '0' := by
    simp [h]
  rw [positional]
  split
  · simp [h]
  · intro hmem
    rcases List.mem_append.mp hmem with hmem | hmem
    · exact hpadded _ (List.mem_of_mem_take hmem)
    · rcases List.mem_cons.mp hmem with hmem | hmem
      · cases hmem
      · exact hpadded _ (List.mem_of_mem_drop hmem)

theorem not_mem_exponential {digits : List Char} (h : 'n' ∉ digits) (power : Int) :
    'n' ∉ exponential digits power := by
  have hsign : 'n' ≠ if power < 0 then '-' else '+' := by
    split <;> decide
  rcases digits with _ | ⟨lead, _ | ⟨next, rest⟩⟩
  · simp [exponential, hsign, not_mem_digitsOf]
  · simpa [exponential, hsign, not_mem_digitsOf] using h
  · simpa [exponential, hsign, not_mem_digitsOf] using h

/-- No letter but `e` is used to write a decimal. -/
theorem not_mem_write (layout : DecimalLayout) (d : Decimal) : 'n' ∉ layout.write d := by
  rw [write]
  split
  · exact not_mem_positional (not_mem_digitsOf _) _
  · exact not_mem_exponential (not_mem_digitsOf _) _

end DecimalLayout

namespace Json

/-- Just the numbers that are not finite are written as `null`. -/
theorem numberText_eq_null_iff {x : Binary64} :
    numberText x = "null".toList ↔ x.isFinite = false := by
  cases x with
  | nan => exact iff_of_true rfl rfl
  | infinite negative => exact iff_of_true rfl rfl
  | finite negative quanta h =>
    refine iff_of_false (fun heq => ?_) Bool.true_eq_false.mp
    have hmem : 'n' ∈ numberText (.finite negative quanta h) := by
      rw [heq]
      decide
    rw [numberText] at hmem
    cases negative with
    | false =>
      rw [if_neg Bool.false_ne_true] at hmem
      exact DecimalLayout.not_mem_write _ _ hmem
    | true =>
      rw [if_pos rfl] at hmem
      rcases List.mem_cons.mp hmem with hmem | hmem
      · cases hmem
      · exact DecimalLayout.not_mem_write _ _ hmem

mutual

/-- The numbers that stand anywhere in a document, in order. -/
def numbers : Json → List Binary64
  | .number x => [x]
  | .array elements => numbersOfElements elements
  | .object members => numbersOfMembers members
  | .null => []
  | .bool _ => []
  | .natural _ => []
  | .string _ => []

/-- The numbers in the elements of an array. -/
def numbersOfElements : List Json → List Binary64
  | [] => []
  | value :: rest => numbers value ++ numbersOfElements rest

/-- The numbers in the members of an object. -/
def numbersOfMembers : List (String × Json) → List Binary64
  | [] => []
  | (_, value) :: rest => numbers value ++ numbersOfMembers rest

end

theorem numbersOfElements_eq_flatMap (elements : List Json) :
    numbersOfElements elements = elements.flatMap numbers := by
  induction elements with
  | nil => rw [numbersOfElements, List.flatMap_nil]
  | cons value rest ih => rw [numbersOfElements, ih, List.flatMap_cons]

end Json

/-! ### The document of a run -/

/-- The numbers of a result as its document holds them. -/
def CellResult.numbers (result : CellResult) : List Binary64 :=
  [result.rawReal, result.realPerIteration, result.userPerIteration]

theorem numbers_cellDocument (size : Nat) (result : CellResult) :
    (cellDocument size result).numbers = result.numbers := by
  rw [cellDocument]
  cases result.verified <;> simp [Json.numbers, Json.numbersOfMembers, CellResult.numbers]

theorem numbers_rowDocument (name : String) (row : ResultsRow) :
    (rowDocument name row).numbers = row.entries.flatMap fun entry => entry.2.numbers := by
  simp [rowDocument, Json.numbers, Json.numbersOfMembers, Json.numbersOfElements_eq_flatMap,
    List.flatMap_map, numbers_cellDocument]

/-- The numbers of a document are the startup overhead, the swamp factor and those of the cells. -/
theorem numbers_reportDocument (context : ReportContext) (matrix : ResultsMatrix)
    (now : Timestamp) :
    (reportDocument context matrix now).numbers =
      context.initTime :: context.swampFactor ::
        matrix.rows.flatMap fun row => row.2.entries.flatMap fun entry => entry.2.numbers := by
  simp [reportDocument, Json.numbers, Json.numbersOfMembers, Json.numbersOfElements_eq_flatMap,
    List.flatMap_map, numbers_rowDocument]

/-! ### Numbers in tables -/

namespace Binary64

theorem million_eq : (1e6 : Binary64) = ofNat 1000000 := by
  decide +kernel

theorem isAmount_million : (1e6 : Binary64).IsAmount 20 := by
  rw [million_eq]
  exact isAmount_ofNat (by decide) (by decide)

theorem IsAmount.exists_toFixed_zero {x : Binary64} {k : Nat} (h : x.IsAmount k) :
    ∃ n, x.toFixed 0 = numeral n := by
  cases h with
  | @intro quanta hq hqle =>
    exact ⟨_, rfl⟩

/-- An amount is shown as a natural number of microseconds. -/
theorem IsAmount.exists_wholeMicroseconds {x : Binary64} {k : Nat} (h : x.IsAmount k)
    (hk : k + 20 < 1024) : ∃ n, wholeMicroseconds x = numeral n ++ "us" := by
  obtain ⟨n, hn⟩ := (h.mul isAmount_million hk).exists_toFixed_zero
  exact ⟨n, by rw [wholeMicroseconds, hn]⟩

end Binary64

end RoutineTiming
