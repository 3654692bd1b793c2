import RoutineTiming.Proofs.Json.Documents
import RoutineTiming.Report.Document

/-!
# Reports recovered from their documents

The text of a report is one JSON document, and everything about the run can be read off it again:
how it was measured, the sizes, and every cell of every routine, in their order. Only the numbers
that are not finite are lost, which come back as `null`.

## Main definitions

* `CellRecord`, `ReportRecord` : what a document holds of a cell and of a run.
* `CellRecord.read?`, `ReportRecord.read?` : the record that a JSON value describes.
* `CellResult.record`, `reportRecord` : the record of a cell and of a run.

## Main results

* `CellRecord.read?_cellDocument`, `ReportRecord.read?_reportDocument` : documents describe records.
* `ReportRecord.cell?_reportRecord` : the record of a run has the cells of its matrix.
* `report_text_recovers_run` : the text of a report.
-/

namespace RoutineTiming

/-! ### Records -/

/-- The number, unless it is infinite or not a number. -/
def Binary64.finite? (x : Binary64) : Option Binary64 := if x.isFinite then some x else none

/-- What a document holds of a cell. -/
structure CellRecord where
  size : Nat
  iterations : Nat
  rawReal : Option Binary64
  realPerIteration : Option Binary64
  userPerIteration : Option Binary64
  value : String
  verified : Option Bool
  deriving DecidableEq

/-- What a document holds of a run. -/
structure ReportRecord where
  generatedAt : String
  initTime : Option Binary64
  statistic : Statistic
  swampFactor : Option Binary64
  sizes : List Nat
  routines : List (String × List CellRecord)
  deriving DecidableEq

/-- The record of a cell. -/
def CellResult.record (size : Nat) (result : CellResult) : CellRecord where
  size
  iterations := result.iterations
  rawReal := result.rawReal.finite?
  realPerIteration := result.realPerIteration.finite?
  userPerIteration := result.userPerIteration.finite?
  value := result.value
  verified := result.verified

/-- The records of the cells of a row. -/
def ResultsRow.records (row : ResultsRow) : List CellRecord :=
  row.entries.map fun entry => entry.2.record entry.1

/-- The record of a run. -/
def reportRecord (context : ReportContext) (matrix : ResultsMatrix) (now : Timestamp) :
    ReportRecord where
  generatedAt := now.text
  initTime := context.initTime.finite?
  statistic := context.statistic
  swampFactor := context.swampFactor.finite?
  sizes := context.sizes
  routines := matrix.rows.map fun row => (row.1, row.2.records)

/-! ### Reading records -/

namespace Json

/-- What is read off the first member with a name. -/
def field? {α : Type} (name : String) (read : Json → Option α) : Json → Option α
  | .object members => (members.find? fun m => m.1 = name).bind fun m => read m.2
  | _ => none

/-- A natural number. -/
def natural? : Json → Option Nat
  | .natural n => some n
  | _ => none

/-- A string. -/
def string? : Json → Option String
  | .string s => some s
  | _ => none

/-- A number, or `null` in place of one. -/
def number? : Json → Option (Option Binary64)
  | .number x => some (some x)
  | .null => some none
  | _ => none

/-- A truth value, or `null` in place of one. -/
def flag? : Json → Option (Option Bool)
  | .bool b => some (some b)
  | .null => some none
  | _ => none

/-- An array whose elements can all be read. -/
def list? {α : Type} (read : Json → Option α) : Json → Option (List α)
  | .array elements => elements.mapM read
  | _ => none

end Json

/-- The statistic with a name. -/
def Statistic.ofName? (name : String) : Option Statistic :=
  [mean, min].find? fun statistic => statistic.name = name

/-- The record of a cell that a JSON value describes. -/
def CellRecord.read? (document : Json) : Option CellRecord := do
  return {
    size := ← document.field? "size" Json.natural?
    iterations := ← document.field? "iterations" Json.natural?
    rawReal := ← document.field? "raw_real" Json.number?
    realPerIteration := ← document.field? "real_per_iter" Json.number?
    userPerIteration := ← document.field? "user_per_iter" Json.number?
    value := ← document.field? "value" Json.string?
    verified := ← document.field? "verified" Json.flag? }

/-- The name and the cells of a routine that a JSON value describes. -/
def readRoutine? (document : Json) : Option (String × List CellRecord) := do
  let name ← document.field? "name" Json.string?
  let cells ← document.field? "results" (Json.list? CellRecord.read?)
  return (name, cells)

/-- The record of a run that a JSON value describes. -/
def ReportRecord.read? (document : Json) : Option ReportRecord := do
  return {
    generatedAt := ← document.field? "generated_at" Json.string?
    initTime := ← document.field? "init_time" Json.number?
    statistic := ← document.field? "statistic" fun v => v.string? >>= Statistic.ofName?
    swampFactor := ← document.field? "swamp_factor" Json.number?
    sizes := ← document.field? "sizes" (Json.list? Json.natural?)
    routines := ← document.field? "routines" (Json.list? readRoutine?) }

/-! ### Documents describe records -/

namespace Json

/-- A member that can be read is read from the object. -/
theorem field?_asWritten {α : Type} {name : String} {members : List (String × Json)}
    {m : String × Json} {read : Json → Option α} {a : α}
    (hfind : (members.find? fun m => m.1 = name) = some m) (hread : read m.2.asWritten = some a) :
    (asWritten (.object members)).field? name read = some a := by
  rw [asWritten, asWrittenMembers_eq_map, field?, List.find?_map]
  change (Option.map _ (members.find? fun m => m.1 = name)).bind _ = _
  rw [hfind]
  exact hread

theorem number?_asWritten (x : Binary64) : (asWritten (.number x)).number? = some x.finite? := by
  rw [asWritten, Binary64.finite?]
  split <;> rfl

theorem flag?_asWritten (verified : Option Bool) :
    (asWritten (match verified with | some b => .bool b | none => .null)).flag? =
      some verified := by
  cases verified <;> rfl

/-- Elements that can be read one by one can be read from the array. -/
theorem list?_asWritten {α β : Type} {read : Json → Option α} {write : β → Json} {value : β → α}
    (h : ∀ b, read (write b).asWritten = some (value b)) (bs : List β) :
    (asWritten (.array (bs.map write))).list? read = some (bs.map value) := by
  rw [asWritten, asWrittenElements_eq_map, List.map_map]
  change ((bs.map (asWritten ∘ write)).mapM read) = _
  induction bs with
  | nil => rfl
  | cons b bs ih => simp [List.mapM_cons, h, ih]

end Json

theorem Statistic.ofName?_name (statistic : Statistic) :
    ofName? statistic.name = some statistic := by
  cases statistic <;> decide

theorem CellRecord.read?_cellDocument (size : Nat) (result : CellResult) :
    read? (cellDocument size result).asWritten = some (result.record size) := by
  let document := (cellDocument size result).asWritten
  have hsize : document.field? "size" Json.natural? = some size := Json.field?_asWritten rfl rfl
  have hiterations : document.field? "iterations" Json.natural? = some result.iterations :=
    Json.field?_asWritten rfl rfl
  have hraw : document.field? "raw_real" Json.number? = some result.rawReal.finite? :=
    Json.field?_asWritten rfl (Json.number?_asWritten _)
  have hreal : document.field? "real_per_iter" Json.number? =
      some result.realPerIteration.finite? :=
    Json.field?_asWritten rfl (Json.number?_asWritten _)
  have huser : document.field? "user_per_iter" Json.number? =
      some result.userPerIteration.finite? :=
    Json.field?_asWritten rfl (Json.number?_asWritten _)
  have hvalue : document.field? "value" Json.string? = some result.value :=
    Json.field?_asWritten rfl rfl
  have hverified : document.field? "verified" Json.flag? = some result.verified :=
    Json.field?_asWritten rfl (Json.flag?_asWritten _)
  rw [read?, hsize, hiterations, hraw, hreal, huser, hvalue, hverified]
  rfl

theorem readRoutine?_rowDocument (row : String × ResultsRow) :
    readRoutine? (rowDocument row.1 row.2).asWritten = some (row.1, row.2.records) := by
  let document := (rowDocument row.1 row.2).asWritten
  have hname : document.field? "name" Json.string? = some row.1 := Json.field?_asWritten rfl rfl
  have hcells : document.field? "results" (Json.list? CellRecord.read?) = some row.2.records :=
    Json.field?_asWritten rfl (Json.list?_asWritten
      (fun entry : Nat × CellResult => CellRecord.read?_cellDocument entry.1 entry.2) _)
  rw [readRoutine?, hname, hcells]
  rfl

theorem ReportRecord.read?_reportDocument (context : ReportContext) (matrix : ResultsMatrix)
    (now : Timestamp) :
    read? (reportDocument context matrix now).asWritten =
      some (reportRecord context matrix now) := by
  let document := (reportDocument context matrix now).asWritten
  have hgenerated : document.field? "generated_at" Json.string? = some now.text :=
    Json.field?_asWritten rfl rfl
  have hinit : document.field? "init_time" Json.number? = some context.initTime.finite? :=
    Json.field?_asWritten rfl (Json.number?_asWritten _)
  have hstatistic : document.field? "statistic" (fun v => v.string? >>= Statistic.ofName?) =
      some context.statistic :=
    Json.field?_asWritten rfl (Statistic.ofName?_name _)
  have hfactor : document.field? "swamp_factor" Json.number? = some context.swampFactor.finite? :=
    Json.field?_asWritten rfl (Json.number?_asWritten _)
  have hsizes : document.field? "sizes" (Json.list? Json.natural?) = some context.sizes := by
    have hnatural (n : Nat) : (Json.asWritten (.natural n)).natural? = some (id n) := rfl
    have hlist := Json.list?_asWritten hnatural context.sizes
    rw [List.map_id] at hlist
    exact Json.field?_asWritten rfl hlist
  have hroutines : document.field? "routines" (Json.list? readRoutine?) =
      some (matrix.rows.map fun row => (row.1, row.2.records)) :=
    Json.field?_asWritten rfl (Json.list?_asWritten readRoutine?_rowDocument _)
  rw [read?, hgenerated, hinit, hstatistic, hfactor, hsizes, hroutines]
  rfl

/-! ### Cells of a record -/

/-- The record of the cell of a routine and a size. -/
def ReportRecord.cell? (record : ReportRecord) (routine : String) (size : Nat) :
    Option CellRecord :=
  (record.routines.find? fun row => row.1 = routine).bind fun row =>
    row.2.find? fun cell => cell.size = size

theorem find?_records (row : ResultsRow) (size : Nat) :
    (row.records.find? fun cell => cell.size = size) =
      (row.get? size).map (CellResult.record size) := by
  rw [ResultsRow.records, OrderedMap.get?]
  induction row.entries with
  | nil => rfl
  | cons entry entries ih =>
    obtain ⟨size', result⟩ := entry
    rw [List.map_cons, OrderedMap.lookup]
    by_cases h : size' = size
    · subst h
      rw [List.find?_cons_of_pos, if_pos Std.ReflCmp.compare_self]
      · rfl
      · exact decide_eq_true rfl
    · have hne : compare size size' ≠ .eq := fun heq => h (Std.LawfulEqCmp.eq_of_compare heq).symm
      rw [List.find?_cons_of_neg, if_neg hne, ih]
      exact fun hsize => h (of_decide_eq_true hsize)

/-- The record of a run has the cells of its matrix. -/
theorem ReportRecord.cell?_reportRecord (context : ReportContext) (matrix : ResultsMatrix)
    (now : Timestamp) (routine : String) (size : Nat) :
    (reportRecord context matrix now).cell? routine size =
      (matrix.get? routine size).map (CellResult.record size) := by
  have hrow (rows : List (String × ResultsRow)) :
      ((rows.map fun row => (row.1, row.2.records)).find? fun row => row.1 = routine).map
        Prod.snd = (ResultsMatrix.findRow routine rows).map ResultsRow.records := by
    induction rows with
    | nil => rfl
    | cons row rows ih =>
      rw [List.map_cons, ResultsMatrix.findRow]
      by_cases h : row.1 = routine
      · rw [List.find?_cons_of_pos, if_pos h]
        · rfl
        · exact decide_eq_true h
      · rw [List.find?_cons_of_neg, if_neg h, ih]
        exact fun hname => h (of_decide_eq_true hname)
  have hcell := congrArg (fun row => row.bind fun cells : List CellRecord =>
    cells.find? fun cell => cell.size = size) (hrow matrix.rows)
  simp only [Option.bind_map, Function.comp_def, find?_records] at hcell
  rw [cell?, reportRecord, ResultsMatrix.get?, ResultsMatrix.row?]
  simp only
  rw [hcell]
  cases ResultsMatrix.findRow routine matrix.rows <;> rfl

/-! ### Reports -/

/-- **Nothing is lost in a report.** The text of a report is a JSON document from which the record
of the run is read again. The record has the routines in the order of the rows, with their cells in
ascending order of size. So two runs with one context and one time stamp that are reported in the
same way have the same routines and the same cells, up to the numbers that are not finite. -/
theorem report_text_recovers_run (context : ReportContext) (matrix : ResultsMatrix)
    (now : Timestamp) :
    let text := (reportDocument context matrix now).pretty
    let record := reportRecord context matrix now
    text ≠ "\x7b\x7d" ∧
    (Json.read? text).bind ReportRecord.read? = some record ∧
    record.routines.map Prod.fst = matrix.rows.map Prod.fst ∧
    (∀ row ∈ record.routines, row.2.Pairwise fun a b => a.size < b.size) ∧
    (∀ routine size,
      record.cell? routine size = (matrix.get? routine size).map (CellResult.record size)) ∧
    ∀ matrix' : ResultsMatrix, (reportDocument context matrix' now).pretty = text →
      matrix'.rows.map Prod.fst = matrix.rows.map Prod.fst ∧
      ∀ routine size, (matrix'.get? routine size).map (CellResult.record size) =
        (matrix.get? routine size).map (CellResult.record size) := by
  intro text record
  have hread (matrix : ResultsMatrix) :
      (Json.read? (reportDocument context matrix now).pretty).bind ReportRecord.read? =
        some (reportRecord context matrix now) := by
    rw [Json.read?_pretty]
    exact ReportRecord.read?_reportDocument context matrix now
  have hnames (matrix : ResultsMatrix) :
      (reportRecord context matrix now).routines.map Prod.fst = matrix.rows.map Prod.fst := by
    rw [reportRecord, List.map_map]
    rfl
  refine ⟨fun hempty => ?_, hread matrix, hnames matrix, fun row hrow => ?_,
    ReportRecord.cell?_reportRecord context matrix now, fun matrix' htext => ?_⟩
  · have hsame : (Json.object []).pretty = (reportDocument context matrix now).pretty :=
      Eq.trans rfl hempty.symm
    have hwritten := Json.asWritten_eq_of_pretty_eq hsame
    cases hwritten
  · obtain ⟨row, -, rfl⟩ := List.mem_map.mp hrow
    exact List.pairwise_map.mpr (row.2.ascending.imp Nat.compare_eq_lt.mp)
  · have hrecord : reportRecord context matrix' now = record := by
      have hread' := hread matrix'
      rw [htext, hread matrix] at hread'
      exact (Option.some.inj hread').symm
    refine ⟨?_, fun routine size => ?_⟩
    · rw [← hnames matrix', hrecord, hnames matrix]
    · rw [← ReportRecord.cell?_reportRecord context matrix' now, hrecord,
        ReportRecord.cell?_reportRecord]

/-- Two runs that are reported in the same way, since what they measured is not finite. -/
theorem report_text_recovers_run_infinite :
    let context : ReportContext := ⟨0, .min, 3, [8]⟩
    let matrix (rawReal : Binary64) : ResultsMatrix :=
      ({} : ResultsMatrix).insert "a" 8 ⟨maxWord, rawReal, 0, 1, "\"\\\n\x01", none⟩
    let text (rawReal : Binary64) := (reportDocument context (matrix rawReal) ⟨0, 0⟩).pretty
    text (.infinite true) = text .nan ∧
    (Json.read? (text .nan)).bind ReportRecord.read? =
      some (reportRecord context (matrix .nan) ⟨0, 0⟩) ∧
    ((matrix (.infinite true)).get? "a" 8).map (CellResult.record 8) =
      ((matrix .nan).get? "a" 8).map (CellResult.record 8) := by
  intro context matrix text
  have htext : text (.infinite true) = text .nan := rfl
  obtain ⟨-, hread, -, -, -, hsame⟩ := report_text_recovers_run context (matrix .nan) ⟨0, 0⟩
  exact ⟨htext, hread, (hsame (matrix (.infinite true)) htext).2 "a" 8⟩

end RoutineTiming
