import Mathlib.Data.List.Forall2
import RoutineTiming.Proofs.Decimal.Fixed
import RoutineTiming.Proofs.Text.Lines
import RoutineTiming.Report.Table

/-!
# The layout of tables

The width of a column is counted in bytes, but the column is filled up to it counted in characters.
No text has more characters than bytes, so nothing is too long for its column, and the columns of
all lines stand below each other, whatever characters the names have.

## Main definitions

* `IsSolid` : the text has no blanks.
* `IsLabel`, `IsBlock` : a name, or a cell, that is filled up with spaces.
* `IsTableLine` : a label and a block for each cell.
* `ResultsMatrix.shown` : what is shown of a cell of a matrix.

## Main results

* `widest_le_iff`, `length_le_widest` : no text is too long for its column.
* `IsTableLine.length_eq` : the lines of a table are equally long.
* `resultsTable_layout` : the lines of a table and what they show.
-/

namespace RoutineTiming

/-! ### Texts without blanks -/

/-- The text has no blanks. -/
def IsSolid (text : String) : Prop := ∀ c ∈ text.toList, c.isWhitespace = false

instance (text : String) : Decidable (IsSolid text) := List.decidableBAll _ text.toList

theorem IsSolid.append {s t : String} (hs : IsSolid s) (ht : IsSolid t) : IsSolid (s ++ t) := by
  intro c hc
  rw [String.toList_append] at hc
  exact (List.mem_append.mp hc).elim (hs c) (ht c)

theorem isWhitespace_of_isDigit {c : Char} (h : c.isDigit = true) : c.isWhitespace = false := by
  rw [Bool.eq_false_iff]
  intro hblank
  simp only [Char.isWhitespace, Bool.or_eq_true, decide_eq_true_eq] at hblank
  rcases hblank with ((rfl | rfl) | rfl) | rfl <;> cases h

/-- A number is written without blanks. -/
theorem Binary64.isSolid_toFixed (places : Nat) (x : Binary64) : IsSolid (x.toFixed places) := by
  have hothers : ['.', '-', 'i', 'n', 'f', 'N', 'a'].all (!·.isWhitespace) = true := by decide
  intro c hc
  rcases mem_toFixed hc with hdigit | hother
  · exact isWhitespace_of_isDigit hdigit
  · exact Bool.not_eq_true' _ |>.mp (List.all_eq_true.mp hothers c hother)

theorem isSolid_humanMagnitude (x : Binary64) : IsSolid (humanMagnitude x) := by
  have hletter : IsSolid (Magnitude.of x).letter := by
    cases Magnitude.of x <;> decide
  exact (Binary64.isSolid_toFixed 0 _).append hletter

theorem isSolid_wholeMicroseconds (seconds : Binary64) : IsSolid (wholeMicroseconds seconds) :=
  (Binary64.isSolid_toFixed 0 _).append (by decide)

/-! ### Widths -/

/-- Every character takes a byte at least. -/
theorem length_le_utf8ByteSize (text : String) : text.length ≤ text.utf8ByteSize := by
  obtain ⟨characters, rfl⟩ := String.exists_eq_ofList text
  rw [String.length_ofList]
  induction characters with
  | nil => exact Nat.zero_le _
  | cons c rest ih =>
    rw [String.ofList_cons, String.utf8ByteSize_append, String.utf8ByteSize_singleton,
      List.length_cons, Nat.add_comm]
    exact Nat.add_le_add c.utf8Size_pos ih

theorem widest_le_iff {texts : List String} {width : Nat} :
    widest texts ≤ width ↔ ∀ text ∈ texts, text.utf8ByteSize ≤ width := by
  have hfold (start : Nat) :
      texts.foldl (fun width text => Nat.max width text.utf8ByteSize) start ≤ width ↔
        start ≤ width ∧ ∀ text ∈ texts, text.utf8ByteSize ≤ width := by
    induction texts generalizing start with
    | nil => simp
    | cons text texts ih =>
      rw [List.foldl_cons, ih, List.forall_mem_cons, ← and_assoc]
      exact and_congr_left' Nat.max_le
  exact (hfold 0).trans (and_iff_right (Nat.zero_le width))

/-- No text is too long for its column. -/
theorem length_le_widest {text : String} {texts : List String} (h : text ∈ texts) :
    text.length ≤ widest texts :=
  (length_le_utf8ByteSize text).trans (widest_le_iff.mp (Nat.le_refl _) text h)

/-! ### Lines of a table -/

/-- The label of a line: the name with spaces behind it, `width` characters in all. -/
structure IsLabel (width : Nat) (name label : String) : Prop where
  length_eq : label.length = width
  exists_spaces : ∃ count, label = name ++ String.ofList (List.replicate count ' ')

/-- A block of a line: two spaces and `width` characters more, which are the cell behind spaces. -/
structure IsBlock (width : Nat) (cell block : String) : Prop where
  length_eq : block.length = 2 + width
  gap : [' ', ' '] <+: block.toList
  stripped : block.toList.dropWhile (· = ' ') = cell.toList

/-- A line of a table: the label of a name and behind it a block for each cell. -/
inductive IsTableLine (nameWidth cellWidth : Nat) (name : String) (cells : List String) :
    String → Prop
  | intro {label : String} {blocks : List String} (hlabel : IsLabel nameWidth name label)
      (hblocks : List.Forall₂ (IsBlock cellWidth) cells blocks) :
      IsTableLine nameWidth cellWidth name cells (label ++ String.join blocks)

theorem isLabel_padRight {width : Nat} {name : String} (h : name.length ≤ width) :
    IsLabel width name (padRight width name) where
  length_eq := by
    rw [padRight, String.length_append, String.length_ofList, List.length_replicate]
    omega
  exists_spaces := ⟨width - name.length, rfl⟩

theorem isBlock_tableCell {width : Nat} {cell : String} (h : cell.length ≤ width)
    (hsolid : IsSolid cell) : IsBlock width cell (tableCell width cell) := by
  have htext : (tableCell width cell).toList =
      ([' ', ' '] ++ List.replicate (width - cell.length) ' ') ++ cell.toList := by
    rw [tableCell, padLeft, String.toList_append, String.toList_append, String.toList_ofList,
      String.toList_ofList, List.append_assoc]
  have hspaces : ∀ c ∈ [' ', ' '] ++ List.replicate (width - cell.length) ' ',
      decide (c = ' ') = true := by
    simp
  have hcell : cell.toList.dropWhile (· = ' ') = cell.toList := by
    refine List.dropWhile_eq_self_iff.mpr fun hpos hblank => ?_
    have hfirst := hsolid _ (List.getElem_mem hpos)
    rw [of_decide_eq_true hblank] at hfirst
    cases hfirst
  refine ⟨?_, ?_, ?_⟩
  · rw [← String.length_toList, htext]
    simp only [List.length_append, List.length_cons, List.length_nil, List.length_replicate,
      String.length_toList]
    omega
  · rw [htext, List.append_assoc]
    exact List.prefix_append _ _
  · rw [htext, List.dropWhile_append_of_pos hspaces, hcell]

/-- Texts that fit into their columns are laid out as a line. -/
theorem isTableLine_tableLine {nameWidth cellWidth : Nat} {name : String} {cells : List String}
    (hname : name.length ≤ nameWidth) (hcells : ∀ cell ∈ cells, cell.length ≤ cellWidth)
    (hsolid : ∀ cell ∈ cells, IsSolid cell) :
    IsTableLine nameWidth cellWidth name cells
      (tableLine false nameWidth cellWidth name cells) := by
  refine .intro (isLabel_padRight hname) (List.forall₂_map_right_iff.mpr ?_)
  exact List.forall₂_same.mpr fun cell hcell =>
    isBlock_tableCell (hcells cell hcell) (hsolid cell hcell)

namespace IsBlock

variable {width : Nat} {cell block : String}

/-- A block has only spaces and the characters of its cell. -/
theorem eq_space_or_mem (h : IsBlock width cell block) {c : Char} (hc : c ∈ block.toList) :
    c = ' ' ∨ c ∈ cell.toList := by
  rw [← List.takeWhile_append_dropWhile (p := (· = ' ')) (l := block.toList), h.stripped] at hc
  rcases List.mem_append.mp hc with hspace | hcell
  · have hblank := List.mem_takeWhile_imp hspace
    exact .inl (of_decide_eq_true hblank)
  · exact .inr hcell

theorem length_join {cells blocks : List String} (h : List.Forall₂ (IsBlock width) cells blocks) :
    (String.join blocks).length = cells.length * (2 + width) := by
  induction h with
  | nil => rw [List.length_nil, Nat.zero_mul]; rfl
  | cons hblock _ ih =>
    rw [String.join_cons, String.length_append, hblock.length_eq, ih, List.length_cons,
      Nat.succ_mul, Nat.add_comm]

theorem eq_space_or_mem_join {cells blocks : List String}
    (h : List.Forall₂ (IsBlock width) cells blocks) {c : Char}
    (hc : c ∈ (String.join blocks).toList) : c = ' ' ∨ ∃ cell ∈ cells, c ∈ cell.toList := by
  induction h with
  | nil => cases hc
  | @cons cell _ cells _ hblock _ ih =>
    rw [String.join_cons, String.toList_append] at hc
    rcases List.mem_append.mp hc with hc | hc
    · exact (hblock.eq_space_or_mem hc).imp_right fun hc => ⟨cell, List.mem_cons_self, hc⟩
    · refine (ih hc).imp_right ?_
      rintro ⟨cell', hcell', hc⟩
      exact ⟨cell', List.mem_cons_of_mem _ hcell', hc⟩

end IsBlock

namespace IsTableLine

variable {nameWidth cellWidth : Nat} {name : String} {cells : List String} {line : String}

/-- The lines of a table are equally long. -/
theorem length_eq (h : IsTableLine nameWidth cellWidth name cells line) :
    line.length = nameWidth + cells.length * (2 + cellWidth) := by
  obtain ⟨hlabel, hblocks⟩ := h
  rw [String.length_append, hlabel.length_eq, IsBlock.length_join hblocks]

/-- A line has only spaces and the characters of its name and its cells. -/
theorem eq_space_or_mem (h : IsTableLine nameWidth cellWidth name cells line) {c : Char}
    (hc : c ∈ line.toList) : c = ' ' ∨ c ∈ name.toList ∨ ∃ cell ∈ cells, c ∈ cell.toList := by
  obtain ⟨⟨-, count, rfl⟩, hblocks⟩ := h
  rw [String.toList_append, String.toList_append, String.toList_ofList] at hc
  rcases List.mem_append.mp hc with hlabel | hjoined
  · rcases List.mem_append.mp hlabel with hname | hspace
    · exact .inr (.inl hname)
    · exact .inl (List.eq_of_mem_replicate hspace)
  · exact (IsBlock.eq_space_or_mem_join hblocks hjoined).imp_right .inr

theorem lineFeed_notMem (h : IsTableLine nameWidth cellWidth name cells line)
    (hname : '\n' ∉ name.toList) (hsolid : ∀ cell ∈ cells, IsSolid cell) :
    '\n' ∉ line.toList := by
  intro hmem
  rcases h.eq_space_or_mem hmem with hspace | hmem | ⟨cell, hcell, hmem⟩
  · cases hspace
  · exact hname hmem
  · cases hsolid cell hcell _ hmem

end IsTableLine

/-! ### What a table shows -/

namespace ResultsMatrix

variable (matrix : ResultsMatrix) (pick : CellResult → Binary64)

/-- What is shown of a cell: whole microseconds, or a dash if it is missing. -/
def shown (routine : String) (size : Nat) : String :=
  (matrix.get? routine size).elim "-" fun result => wholeMicroseconds (pick result)

/-- A dash is shown for the missing cells alone. -/
theorem shown_eq_dash_iff {routine : String} {size : Nat} :
    matrix.shown pick routine size = "-" ↔ matrix.get? routine size = none := by
  rw [shown]
  cases matrix.get? routine size with
  | none => exact iff_of_true rfl rfl
  | some result =>
    refine iff_of_false (fun heq => ?_) (Option.some_ne_none result)
    have hunit : 's' ∈ (wholeMicroseconds (pick result)).toList := by
      rw [wholeMicroseconds, String.toList_append]
      exact List.mem_append_right _ (by decide)
    rw [Option.elim_some] at heq
    rw [heq] at hunit
    revert hunit
    decide

theorem isSolid_shown (routine : String) (size : Nat) :
    IsSolid (matrix.shown pick routine size) := by
  rw [shown]
  cases matrix.get? routine size with
  | none => exact show IsSolid "-" by decide
  | some result => exact isSolid_wholeMicroseconds _

variable {matrix} in
/-- A routine has one row, so that its cells are read off this row. -/
theorem cellText_eq_shown {routine : String} {row : ResultsRow}
    (h : (routine, row) ∈ matrix.rows) (size : Nat) :
    cellText pick row size = matrix.shown pick routine size := by
  have hrow : matrix.row? routine = some row := (findRow_eq_some_iff matrix.distinct).mpr h
  rw [shown, get?, hrow, Option.bind_some, cellText]
  cases row.get? size <;> rfl

end ResultsMatrix

theorem isSolid_of_mem_sizeHeaders {sizes : List Nat} {header : String}
    (h : header ∈ sizeHeaders sizes) : IsSolid header := by
  obtain ⟨size, -, rfl⟩ := List.mem_map.mp h
  exact isSolid_humanMagnitude _

theorem tableHeader_eq_tableLine (nameWidth cellWidth : Nat) (sizes : List Nat) :
    tableHeader nameWidth cellWidth sizes =
      tableLine false nameWidth cellWidth "routine" (sizeHeaders sizes) := rfl

namespace ResultsMatrix

variable (matrix : ResultsMatrix) (pick : CellResult → Binary64) (sizes : List Nat)

/-- The cells in the line of a routine. -/
def shownCells (routine : String) : List String := sizes.map (matrix.shown pick routine)

variable {matrix} in
theorem map_cellText_eq_shownCells {row : String × ResultsRow} (h : row ∈ matrix.rows) :
    sizes.map (cellText pick row.2) = matrix.shownCells pick sizes row.1 :=
  List.map_congr_left fun size _ => cellText_eq_shown pick h size

/-- The header line. -/
def headerLine : String :=
  tableLine false matrix.nameWidth (matrix.cellWidth pick sizes) "routine" (sizeHeaders sizes)

/-- The line of a routine. -/
def routineLine (routine : String) : String :=
  tableLine false matrix.nameWidth (matrix.cellWidth pick sizes) routine
    (matrix.shownCells pick sizes routine)

theorem isSolid_of_mem_shownCells {routine cell : String}
    (h : cell ∈ matrix.shownCells pick sizes routine) : IsSolid cell := by
  obtain ⟨size, -, rfl⟩ := List.mem_map.mp h
  exact matrix.isSolid_shown pick routine size

theorem isTableLine_headerLine :
    IsTableLine matrix.nameWidth (matrix.cellWidth pick sizes) "routine" (sizeHeaders sizes)
      (matrix.headerLine pick sizes) :=
  isTableLine_tableLine (length_le_widest List.mem_cons_self)
    (fun _ hheader => length_le_widest (List.mem_append_left _ hheader))
    fun _ => isSolid_of_mem_sizeHeaders

theorem isTableLine_routineLine {routine : String} (h : routine ∈ matrix.rows.map Prod.fst) :
    IsTableLine matrix.nameWidth (matrix.cellWidth pick sizes) routine
      (matrix.shownCells pick sizes routine) (matrix.routineLine pick sizes routine) := by
  obtain ⟨row, hrow, rfl⟩ := List.mem_map.mp h
  refine isTableLine_tableLine (length_le_widest (List.mem_cons_of_mem _ h)) (fun cell hcell => ?_)
    fun cell => matrix.isSolid_of_mem_shownCells pick sizes
  rw [← map_cellText_eq_shownCells pick sizes hrow] at hcell
  exact length_le_widest (List.mem_append_right _ (List.mem_flatMap.mpr ⟨row, hrow, hcell⟩))

/-- The lines of a table, painted if `colored`. -/
def tableLines (colored : Bool) (title : String) : List String :=
  Paint.bold.apply colored title :: Paint.faint.apply colored (matrix.headerLine pick sizes) ::
    matrix.rows.map fun row => tableLine colored matrix.nameWidth (matrix.cellWidth pick sizes)
      row.1 (matrix.shownCells pick sizes row.1)

/-- A table is printed line by line. -/
theorem resultsTable_eq_tableLines (colored : Bool) (title : String) :
    resultsTable colored title sizes matrix pick =
      printedLines ((matrix.tableLines pick sizes colored title).map
        fun line => (line, .lineFeed)) := by
  have hrows : matrix.rows.map (fun row => tableLine colored matrix.nameWidth
        (matrix.cellWidth pick sizes) row.1 (sizes.map (cellText pick row.2)) ++ "\n") =
      matrix.rows.map fun row => tableLine colored matrix.nameWidth
        (matrix.cellWidth pick sizes) row.1 (matrix.shownCells pick sizes row.1) ++ "\n" :=
    List.map_congr_left fun row hrow => by rw [map_cellText_eq_shownCells pick sizes hrow]
  rw [resultsTable, hrows, tableHeader_eq_tableLine, printedLines_lineFeed, tableLines,
    List.map_cons, List.map_cons, String.join_cons, String.join_cons, List.map_map,
    ← String.append_assoc, ← String.append_assoc]
  rfl

/-- A table without colours is printed line by line. -/
theorem resultsTable_eq_printedLines (title : String) :
    resultsTable false title sizes matrix pick =
      printedLines ((title :: matrix.headerLine pick sizes ::
        matrix.rows.map fun row => matrix.routineLine pick sizes row.1).map
          fun line => (line, .lineFeed)) :=
  matrix.resultsTable_eq_tableLines pick sizes false title

end ResultsMatrix

/-- **The layout of a table.** A table has the title, a header line and a line per row, in the order
of the rows. All lines but the title have the same columns, which show the names and the cells in
full, and a dash just for the cells that the matrix lacks. -/
theorem resultsTable_layout {title : String} (htitle : '\n' ∉ title.toList) (sizes : List Nat)
    {matrix : ResultsMatrix} (hnames : ∀ row ∈ matrix.rows, '\n' ∉ row.1.toList)
    (pick : CellResult → Binary64) :
    ∃ nameWidth cellWidth header lines,
      resultsTable false title sizes matrix pick =
          printedLines ((title :: header :: lines).map fun line => (line, .lineFeed)) ∧
        (∀ line ∈ title :: header :: lines, '\n' ∉ line.toList) ∧
        IsTableLine nameWidth cellWidth "routine" (sizeHeaders sizes) header ∧
        List.Forall₂
          (fun row => IsTableLine nameWidth cellWidth row.1 (matrix.shownCells pick sizes row.1))
          matrix.rows lines ∧
        ∀ routine size,
          matrix.shown pick routine size = "-" ↔ matrix.get? routine size = none := by
  have hheader := matrix.isTableLine_headerLine pick sizes
  have hlines : ∀ row ∈ matrix.rows,
      IsTableLine matrix.nameWidth (matrix.cellWidth pick sizes) row.1
        (matrix.shownCells pick sizes row.1) (matrix.routineLine pick sizes row.1) :=
    fun row hrow => matrix.isTableLine_routineLine pick sizes (List.mem_map_of_mem hrow)
  refine ⟨_, _, _, _, matrix.resultsTable_eq_printedLines pick sizes title,
    List.forall_mem_cons.mpr ⟨htitle, List.forall_mem_cons.mpr ⟨?_, ?_⟩⟩, hheader,
    List.forall₂_map_right_iff.mpr (List.forall₂_same.mpr hlines),
    fun routine size => matrix.shown_eq_dash_iff pick⟩
  · exact hheader.lineFeed_notMem (by decide) fun _ => isSolid_of_mem_sizeHeaders
  · intro line hline
    obtain ⟨row, hrow, rfl⟩ := List.mem_map.mp hline
    exact (hlines row hrow).lineFeed_notMem (hnames row hrow) fun _ =>
      matrix.isSolid_of_mem_shownCells pick sizes

/-- A matrix with names that have more bytes than characters. One cell is missing. -/
def unevenMatrix : ResultsMatrix :=
  let cell (seconds : Binary64) : CellResult := ⟨1, seconds, seconds, seconds, "", none⟩
  { rows := [("größe", .ofList [(10, cell 12e-6), (1000, cell 3.25e-3)]),
      ("日本語", .ofList [(10, cell 1)])]
    distinct := by decide }

/-- Names of five and of three characters, each name and each cell in full. One size is asked for
twice. -/
theorem resultsTable_layout_unevenMatrix :
    ∃ nameWidth cellWidth header lines,
      resultsTable false "Real" [10, 1000, 10] unevenMatrix CellResult.realPerIteration =
          printedLines (("Real" :: header :: lines).map fun line => (line, .lineFeed)) ∧
        IsTableLine nameWidth cellWidth "routine" ["10", "1k", "10"] header ∧
        List.Forall₂ (fun row => IsTableLine nameWidth cellWidth row.1 row.2)
          [("größe", ["12us", "3250us", "12us"]), ("日本語", ["1000000us", "-", "1000000us"])]
          lines := by
  have hnames : ∀ row ∈ unevenMatrix.rows, '\n' ∉ row.1.toList := by decide +kernel
  obtain ⟨nameWidth, cellWidth, header, lines, htable, -, hheader, hlines, -⟩ :=
    @resultsTable_layout "Real" (by decide) [10, 1000, 10] unevenMatrix hnames
      CellResult.realPerIteration
  have hheaders : sizeHeaders [10, 1000, 10] = ["10", "1k", "10"] := by decide +kernel
  have hrows : unevenMatrix.rows.map (fun row => (row.1,
        unevenMatrix.shownCells CellResult.realPerIteration [10, 1000, 10] row.1)) =
      [("größe", ["12us", "3250us", "12us"]), ("日本語", ["1000000us", "-", "1000000us"])] := by
    decide +kernel
  rw [hheaders] at hheader
  refine ⟨nameWidth, cellWidth, header, lines, htable, hheader, ?_⟩
  rw [← hrows]
  exact List.forall₂_map_left_iff.mpr hlines

end RoutineTiming
