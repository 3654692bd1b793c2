import RoutineTiming.Proofs.Report.Alignment
import RoutineTiming.Report.Console

/-!
# Colours are decoration

A painted text stands between two style sequences: an escape and a bracket, parameters, and the
letter `m`. Without its style sequences, what is written with colours is what is written without
them, as long as no escape stands in a text that is shown as it is. Widths are counted and columns
are filled up before a text is painted, so the columns of a table stay where they are.

## Main definitions

* `withoutStyles`, `uncolored` : a text without its style sequences.
* `IsPlain` : the text has no escape.
* `Decorates` : a text that shows another one, in whatever place it stands.

## Main results

* `Decorates.append`, `Decorates.join`, `decorates_apply` : how decorated texts are put together.
* `uncolored_output` : tables, reports and notices without their style sequences.
-/

namespace RoutineTiming

/-! ### Style sequences -/

/-- The character may be a parameter of a style sequence: a digit, or a mark between digits. -/
def isStyleParameter (c : Char) : Bool := '0' ≤ c && c ≤ '?'

/-- What stands behind the style sequence that a text begins with. -/
def afterStyle? : List Char → Option (List Char)
  | '\x1b' :: '[' :: cs =>
    match cs.dropWhile isStyleParameter with
    | 'm' :: rest => some rest
    | _ => none
  | _ => none

theorem length_afterStyle? {cs rest : List Char} (h : afterStyle? cs = some rest) :
    rest.length < cs.length := by
  rw [afterStyle?.eq_def] at h
  split at h
  · next cs =>
    have hle := (List.dropWhile_sublist isStyleParameter (l := cs)).length_le
    split at h
    · next heq =>
      cases h
      rw [heq, List.length_cons] at hle
      rw [List.length_cons, List.length_cons]
      omega
    · cases h
  · cases h

/-- A text without its style sequences. -/
def withoutStyles : List Char → List Char
  | [] => []
  | c :: cs =>
    match _ : afterStyle? (c :: cs) with
    | some rest => withoutStyles rest
    | none => c :: withoutStyles cs
termination_by cs => cs.length
decreasing_by
  · exact length_afterStyle? ‹_›
  · exact Nat.lt_succ_self _

theorem withoutStyles_of_some {cs rest : List Char} (h : afterStyle? cs = some rest) :
    withoutStyles cs = withoutStyles rest := by
  cases cs with
  | nil => cases h
  | cons c cs =>
    rw [withoutStyles]
    split
    · next heq => rw [Option.some.inj (h.symm.trans heq)]
    · next heq => cases h.symm.trans heq

theorem withoutStyles_of_none {c : Char} {cs : List Char} (h : afterStyle? (c :: cs) = none) :
    withoutStyles (c :: cs) = c :: withoutStyles cs := by
  rw [withoutStyles]
  split
  · next heq => cases h.symm.trans heq
  · rfl

theorem afterStyle?_of_ne {c : Char} (h : c ≠ '\x1b') (cs : List Char) :
    afterStyle? (c :: cs) = none := by
  rw [afterStyle?.eq_def]
  split
  · next heq => exact absurd (List.cons.inj heq).1 h
  · rfl

/-- Without an escape there is no style sequence. -/
theorem withoutStyles_append {cs : List Char} (h : '\x1b' ∉ cs) (rest : List Char) :
    withoutStyles (cs ++ rest) = cs ++ withoutStyles rest := by
  induction cs with
  | nil => rfl
  | cons c cs ih =>
    rw [List.mem_cons, not_or] at h
    obtain ⟨hc, hcs⟩ := h
    rw [List.cons_append, withoutStyles_of_none (afterStyle?_of_ne (Ne.symm hc) _), ih hcs,
      List.cons_append]

theorem withoutStyles_sequence_append {number : List Char}
    (h : number.all isStyleParameter = true) (rest : List Char) :
    withoutStyles (Paint.sequence number ++ rest) = withoutStyles rest := by
  refine withoutStyles_of_some ?_
  have hbehind : (number ++ 'm' :: rest).dropWhile isStyleParameter = 'm' :: rest := by
    rw [List.dropWhile_append_of_pos (List.all_eq_true.mp h)]
    rfl
  simp [Paint.sequence, afterStyle?, hbehind]

theorem withoutStyles_on_append (paint : Paint) (rest : List Char) :
    withoutStyles (paint.on ++ rest) = withoutStyles rest := by
  cases paint <;> exact withoutStyles_sequence_append (by decide) rest

theorem withoutStyles_off_append (paint : Paint) (rest : List Char) :
    withoutStyles (paint.off ++ rest) = withoutStyles rest := by
  cases paint <;> exact withoutStyles_sequence_append (by decide) rest

/-- A text without its style sequences. -/
def uncolored (text : String) : String := String.ofList (withoutStyles text.toList)

/-- The texts on both streams without their style sequences. -/
def Printed.uncolored (printed : Printed) : Printed :=
  ⟨RoutineTiming.uncolored printed.stdout, RoutineTiming.uncolored printed.stderr⟩

/-- A sequence that ends in another letter is no style sequence. -/
example : uncolored "\x1b[1;33mA\x1b[m\x1b[2Jb" = "A\x1b[2Jb" := by cbv

/-! ### Texts without an escape -/

/-- The text has no escape. -/
def IsPlain (text : String) : Prop := '\x1b' ∉ text.toList

instance (text : String) : Decidable (IsPlain text) :=
  inferInstanceAs (Decidable (_ ∉ text.toList))

theorem IsPlain.append {s t : String} (hs : IsPlain s) (ht : IsPlain t) : IsPlain (s ++ t) := by
  intro h
  rw [String.toList_append] at h
  exact (List.mem_append.mp h).elim hs ht

theorem isPlain_join {texts : List String} (h : ∀ text ∈ texts, IsPlain text) :
    IsPlain (String.join texts) := by
  induction texts with
  | nil => exact List.not_mem_nil
  | cons text texts ih =>
    obtain ⟨htext, htexts⟩ := List.forall_mem_cons.mp h
    rw [String.join_cons]
    exact htext.append (ih htexts)

theorem isPlain_spaces (count : Nat) : IsPlain (String.ofList (List.replicate count ' ')) := by
  intro h
  rw [String.toList_ofList] at h
  cases List.eq_of_mem_replicate h

theorem isPlain_toFixed (places : Nat) (x : Binary64) : IsPlain (x.toFixed places) := by
  intro h
  rcases Binary64.mem_toFixed h with hdigit | hname
  · cases hdigit
  · exact absurd hname (by decide)

theorem isPlain_numeral (n : Nat) : IsPlain (numeral n) := by
  intro h
  rw [numeral, String.toList_ofList] at h
  cases isDigit_of_mem_digitsOf h

theorem isPlain_humanMagnitude (x : Binary64) : IsPlain (humanMagnitude x) := by
  have hletter : IsPlain (Magnitude.of x).letter := by
    cases Magnitude.of x <;> decide
  exact (isPlain_toFixed 0 _).append hletter

theorem isPlain_wholeMicroseconds (seconds : Binary64) : IsPlain (wholeMicroseconds seconds) :=
  (isPlain_toFixed 0 _).append (by decide)

theorem escape_notMem_toDigits (n : Nat) : '\x1b' ∉ Nat.toDigits 16 n := by
  have hdigit : ∀ d < 16, '\x1b' ∉ [Nat.digitChar d] := by decide
  induction n using Nat.strongRecOn with
  | ind n ih =>
    rcases Nat.lt_or_ge n 16 with hlt | hge
    · rw [Nat.toDigits_of_lt_base hlt]
      exact hdigit n hlt
    · rw [Nat.toDigits_of_base_le (by decide) hge]
      intro h
      exact (List.mem_append.mp h).elim (ih _ (by omega)) (hdigit _ (Nat.mod_lt _ (by decide)))

/-- Between quotes an escape is given by its code point. -/
theorem escape_notMem_quotedChar (c : Char) : '\x1b' ∉ quotedChar c := by
  rw [quotedChar.eq_def]
  split
  iterate 6 decide
  split
  · next hshown =>
    intro h
    rw [← List.mem_singleton.mp h] at hshown
    revert hshown
    decide
  · intro h
    rcases List.mem_append.mp h with h | h
    · rcases List.mem_append.mp h with h | h
      · revert h
        decide
      · exact escape_notMem_toDigits _ h
    · revert h
      decide

theorem isPlain_quoted (text : String) : IsPlain (quoted text) := by
  intro h
  rw [quoted, String.toList_ofList] at h
  rcases List.mem_append.mp h with h | h
  · rcases List.mem_cons.mp h with h | h
    · cases h
    · obtain ⟨c, -, hc⟩ := List.mem_flatMap.mp h
      exact escape_notMem_quotedChar c hc
  · cases List.mem_singleton.mp h

/-! ### Decorated texts -/

/-- The first text shows the second one: without its style sequences it is the second text, whatever
stands behind it. -/
def Decorates (decorated plain : String) : Prop :=
  ∀ rest, withoutStyles (decorated.toList ++ rest) = plain.toList ++ withoutStyles rest

theorem IsPlain.decorates {text : String} (h : IsPlain text) : Decorates text text :=
  withoutStyles_append h

/-- A text that may be in a style shows the text. -/
theorem decorates_apply (paint : Paint) {colored : Bool} {text : String} (h : IsPlain text) :
    Decorates (paint.apply colored text) (paint.apply false text) := by
  cases colored with
  | false => exact h.decorates
  | true =>
    intro rest
    have htext : (paint.apply true text).toList = paint.on ++ text.toList ++ paint.off :=
      String.toList_ofList
    rw [htext, List.append_assoc, List.append_assoc, withoutStyles_on_append,
      withoutStyles_append h, withoutStyles_off_append]
    rfl

namespace Decorates

theorem append {s s' t t' : String} (hs : Decorates s s') (ht : Decorates t t') :
    Decorates (s ++ t) (s' ++ t') := by
  intro rest
  rw [String.toList_append, String.toList_append, List.append_assoc, hs, ht, List.append_assoc]

theorem append_plain {s s' t : String} (hs : Decorates s s') (ht : IsPlain t) :
    Decorates (s ++ t) (s' ++ t) :=
  hs.append ht.decorates

theorem join {texts plain : List String} (h : List.Forall₂ Decorates texts plain) :
    Decorates (String.join texts) (String.join plain) := by
  induction h with
  | nil => exact show Decorates "" "" from IsPlain.decorates List.not_mem_nil
  | cons htext _ ih =>
    rw [String.join_cons, String.join_cons]
    exact htext.append ih

theorem uncolored_eq {s t : String} (h : Decorates s t) : uncolored s = t := by
  have hrest := h []
  rw [List.append_nil, withoutStyles, List.append_nil] at hrest
  rw [uncolored, hrest, String.ofList_toList]

theorem map_uncolored_eq {texts plain : List String} (h : List.Forall₂ Decorates texts plain) :
    texts.map uncolored = plain := by
  induction h with
  | nil => rfl
  | cons htext _ ih => rw [List.map_cons, htext.uncolored_eq, ih]

end Decorates

/-! ### Tables -/

theorem isPlain_padRight (width : Nat) {text : String} (h : IsPlain text) :
    IsPlain (padRight width text) :=
  h.append (isPlain_spaces _)

theorem isPlain_tableCell (width : Nat) {text : String} (h : IsPlain text) :
    IsPlain (tableCell width text) :=
  IsPlain.append (by decide) ((isPlain_spaces _).append h)

theorem isPlain_tableCells (width : Nat) {cells : List String} (h : ∀ cell ∈ cells, IsPlain cell) :
    IsPlain (String.join (cells.map (tableCell width))) := by
  refine isPlain_join fun text htext => ?_
  obtain ⟨cell, hcell, rfl⟩ := List.mem_map.mp htext
  exact isPlain_tableCell width (h cell hcell)

namespace ResultsMatrix

variable (matrix : ResultsMatrix) (pick : CellResult → Binary64) (sizes : List Nat)

theorem isPlain_headerLine : IsPlain (matrix.headerLine pick sizes) := by
  refine IsPlain.append (isPlain_padRight _ (by decide)) (isPlain_tableCells _ fun cell hcell => ?_)
  obtain ⟨size, -, rfl⟩ := List.mem_map.mp hcell
  exact isPlain_humanMagnitude _

theorem isPlain_shown (routine : String) (size : Nat) :
    IsPlain (matrix.shown pick routine size) := by
  rw [shown]
  cases matrix.get? routine size with
  | none => exact show IsPlain "-" by decide
  | some result => exact isPlain_wholeMicroseconds _

variable {matrix} {title : String} (htitle : IsPlain title)
  (hnames : ∀ row ∈ matrix.rows, IsPlain row.1)

include htitle hnames in
/-- The title, the header line and the names are painted; every line shows the same with colours as
without. -/
theorem decorates_tableLines :
    List.Forall₂ Decorates (matrix.tableLines pick sizes true title)
      (matrix.tableLines pick sizes false title) := by
  refine .cons (decorates_apply .bold htitle)
    (.cons (decorates_apply .faint (matrix.isPlain_headerLine pick sizes)) ?_)
  rw [List.forall₂_map_left_iff, List.forall₂_map_right_iff]
  refine List.forall₂_same.mpr fun row hrow => ?_
  refine (decorates_apply .cyan (isPlain_padRight _ (hnames row hrow))).append_plain ?_
  refine isPlain_tableCells _ fun cell hcell => ?_
  obtain ⟨size, -, rfl⟩ := List.mem_map.mp hcell
  exact matrix.isPlain_shown pick row.1 size

include htitle hnames in
theorem decorates_resultsTable :
    Decorates (resultsTable true title sizes matrix pick)
      (resultsTable false title sizes matrix pick) := by
  rw [resultsTable_eq_tableLines, resultsTable_eq_tableLines, printedLines_lineFeed,
    printedLines_lineFeed]
  refine Decorates.join ?_
  rw [List.forall₂_map_left_iff, List.forall₂_map_right_iff]
  exact (decorates_tableLines pick sizes htitle hnames).imp fun _ _ hline =>
    hline.append_plain (by decide)

include hnames in
theorem decorates_fullReport :
    Decorates (fullReport true sizes matrix) (fullReport false sizes matrix) := by
  have hfeed : Decorates "\n" "\n" := IsPlain.decorates (by decide)
  refine ((hfeed.append ?_).append hfeed).append ?_
  · exact decorates_resultsTable _ sizes (by decide) hnames
  · exact decorates_resultsTable _ sizes (by decide) hnames

end ResultsMatrix

/-! ### Notices -/

/-- The texts that a notice shows as they are; those between quotes are not among them. -/
def Notice.texts : Notice → List String
  | .calibrated _ => []
  | .measured routine _ _ => [routine]
  | .skipped routine requirement hint => [routine, requirement, hint]
  | .diagnostic line => [line]
  | .swamped routine .. => [routine]
  | .mismatch routine .. => [routine]

theorem isPlain_progressLine (size : Nat) (result : CellResult) :
    IsPlain (progressLine size result) :=
  (isPlain_humanMagnitude _).append (by decide)
    |>.append (isPlain_humanMagnitude _) |>.append (by decide)
    |>.append (isPlain_humanMagnitude _) |>.append (by decide)
    |>.append (isPlain_toFixed 3 _) |>.append (by decide)
    |>.append (isPlain_numeral _) |>.append (by decide)

theorem decorates_line {colored : Bool} {notice : Notice}
    (h : ∀ text ∈ notice.texts, IsPlain text) :
    Decorates (notice.line colored) (notice.line false) := by
  have hlabel : Decorates (Paint.yellow.apply colored "warning:")
      (Paint.yellow.apply false "warning:") := decorates_apply .yellow (by decide)
  cases notice with
  | calibrated initTime =>
    refine IsPlain.decorates ?_
    exact IsPlain.append (by decide) (isPlain_toFixed 3 initTime) |>.append (by decide)
  | measured routine size result =>
    have hroutine : IsPlain routine := h routine (by simp [Notice.texts])
    exact decorates_apply .cyan hroutine |>.append_plain (by decide)
      |>.append_plain (isPlain_progressLine size result)
  | skipped routine requirement hint =>
    have hroutine : IsPlain routine := h routine (by simp [Notice.texts])
    have hrequirement : IsPlain requirement := h requirement (by simp [Notice.texts])
    have hhint : IsPlain hint := h hint (by simp [Notice.texts])
    refine IsPlain.decorates ?_
    exact IsPlain.append (by decide) hroutine |>.append (by decide) |>.append hrequirement
      |>.append (by decide) |>.append hhint |>.append (by decide)
  | diagnostic line =>
    have hline : IsPlain line := h line (by simp [Notice.texts])
    exact decorates_apply .faint (IsPlain.append (by decide) hline)
  | swamped routine size rawReal initTime iterations =>
    have hroutine : IsPlain routine := h routine (by simp [Notice.texts])
    exact hlabel.append_plain (by decide) |>.append_plain hroutine
      |>.append_plain (by decide) |>.append_plain (isPlain_numeral size)
      |>.append_plain (by decide) |>.append_plain (isPlain_toFixed 3 rawReal)
      |>.append_plain (by decide) |>.append_plain (isPlain_toFixed 3 initTime)
      |>.append_plain (by decide) |>.append_plain (isPlain_numeral iterations)
      |>.append_plain (by decide)
  | mismatch routine size observed expected =>
    have hroutine : IsPlain routine := h routine (by simp [Notice.texts])
    exact hlabel.append_plain (by decide) |>.append_plain hroutine
      |>.append_plain (by decide) |>.append_plain (isPlain_numeral size)
      |>.append_plain (by decide) |>.append_plain (isPlain_quoted observed)
      |>.append_plain (by decide) |>.append_plain (isPlain_quoted expected)

namespace Console

variable (console : Console) (colors : Colors)

/-- A console with colours writes to the same stream as one without them. -/
theorem decorates_print {notice : Notice} (h : ∀ text ∈ notice.texts, IsPlain text) :
    Decorates ({ console with colors }.print notice).stdout
        ({ console with colors := {} }.print notice).stdout ∧
      Decorates ({ console with colors }.print notice).stderr
        ({ console with colors := {} }.print notice).stderr := by
  have hempty : Decorates "" "" := IsPlain.decorates (by decide)
  have hline : Decorates ({ console with colors }.line notice ++ "\n")
      ({ console with colors := {} }.line notice ++ "\n") := by
    rw [line, line, ite_self]
    exact (decorates_line h).append_plain (by decide)
  have hshows : { console with colors }.shows notice =
      { console with colors := {} }.shows notice := by
    cases notice <;> rfl
  have hstream : { console with colors }.usesStderr notice =
      { console with colors := {} }.usesStderr notice := rfl
  rw [print, print, hshows, hstream]
  split
  · dsimp only
    split
    · exact ⟨hempty, hline⟩
    · exact ⟨hline, hempty⟩
  · exact ⟨hempty, hempty⟩

theorem uncolored_printAll {notices : List Notice}
    (h : ∀ notice ∈ notices, ∀ text ∈ notice.texts, IsPlain text) :
    ({ console with colors }.printAll notices).uncolored =
      { console with colors := {} }.printAll notices := by
  rw [printAll, printAll, Printed.uncolored]
  congr 1
  · refine (Decorates.join ?_).uncolored_eq
    rw [List.forall₂_map_left_iff, List.forall₂_map_right_iff]
    exact List.forall₂_same.mpr fun notice hnotice =>
      (console.decorates_print colors (h notice hnotice)).1
  · refine (Decorates.join ?_).uncolored_eq
    rw [List.forall₂_map_left_iff, List.forall₂_map_right_iff]
    exact List.forall₂_same.mpr fun notice hnotice =>
      (console.decorates_print colors (h notice hnotice)).2

end Console

/-- **Colours are decoration.** What is written with colours is, without its style sequences, what
is written without colours: each line of a table, so that the columns are the same, each table, a
report, and on each of the two streams what any notices write there, whichever of the streams are
painted. -/
theorem uncolored_output {title : String} (htitle : IsPlain title) (sizes : List Nat)
    {matrix : ResultsMatrix} (hnames : ∀ row ∈ matrix.rows, IsPlain row.1)
    (pick : CellResult → Binary64) (console : Console) (colors : Colors) {notices : List Notice}
    (hnotices : ∀ notice ∈ notices, ∀ text ∈ notice.texts, IsPlain text) :
    (∀ colored, resultsTable colored title sizes matrix pick =
      printedLines ((matrix.tableLines pick sizes colored title).map
        fun line => (line, .lineFeed))) ∧
    (matrix.tableLines pick sizes true title).map uncolored =
      matrix.tableLines pick sizes false title ∧
    uncolored (resultsTable true title sizes matrix pick) =
      resultsTable false title sizes matrix pick ∧
    uncolored (fullReport true sizes matrix) = fullReport false sizes matrix ∧
    (∀ notice ∈ notices, ({ console with colors }.print notice).uncolored =
      { console with colors := {} }.print notice) ∧
    ({ console with colors }.printAll notices).uncolored =
      { console with colors := {} }.printAll notices := by
  refine ⟨fun colored => matrix.resultsTable_eq_tableLines pick sizes colored title,
    Decorates.map_uncolored_eq (matrix.decorates_tableLines pick sizes htitle hnames),
    (matrix.decorates_resultsTable pick sizes htitle hnames).uncolored_eq,
    (matrix.decorates_fullReport sizes hnames).uncolored_eq, fun notice hnotice => ?_,
    console.uncolored_printAll colors hnotices⟩
  obtain ⟨hstdout, hstderr⟩ := console.decorates_print colors (hnotices notice hnotice)
  rw [Printed.uncolored, hstdout.uncolored_eq, hstderr.uncolored_eq]

/-- A table with long names, and a warning about a value that is itself painted. -/
theorem uncolored_output_unevenMatrix :
    uncolored ("\x1b[1mReal\x1b[0m\n" ++
        "\x1b[2mroutine           10         1k\x1b[0m\n" ++
        "\x1b[36mgröße    \x1b[0m       12us     3250us\n" ++
        "\x1b[36m日本語      \x1b[0m  1000000us          -\n") =
      "Real\n" ++
        "routine           10         1k\n" ++
        "größe           12us     3250us\n" ++
        "日本語        1000000us          -\n" ∧
    Printed.uncolored ⟨"", "\x1b[33mwarning:\x1b[39m " ++
        "f at size 10 returned \"\\u\x7b1b\x7d[1m2\", expected \"2\"\n"⟩ =
      ⟨"", "warning: f at size 10 returned \"\\u\x7b1b\x7d[1m2\", expected \"2\"\n"⟩ := by
  have hnames : ∀ row ∈ unevenMatrix.rows, IsPlain row.1 := by decide +kernel
  have hnotices : ∀ notice ∈ [Notice.mismatch "f" 10 "\x1b[1m2" "2"],
      ∀ text ∈ notice.texts, IsPlain text := by decide +kernel
  have hcolored : resultsTable true "Real" [10, 1000] unevenMatrix CellResult.realPerIteration =
      "\x1b[1mReal\x1b[0m\n" ++
        "\x1b[2mroutine           10         1k\x1b[0m\n" ++
        "\x1b[36mgröße    \x1b[0m       12us     3250us\n" ++
        "\x1b[36m日本語      \x1b[0m  1000000us          -\n" := by decide +kernel
  have hplain : resultsTable false "Real" [10, 1000] unevenMatrix CellResult.realPerIteration =
      "Real\n" ++
        "routine           10         1k\n" ++
        "größe           12us     3250us\n" ++
        "日本語        1000000us          -\n" := by decide +kernel
  obtain ⟨-, -, htable, -, -, hprinted⟩ := uncolored_output (show IsPlain "Real" by decide)
    [10, 1000] hnames CellResult.realPerIteration {} ⟨true, true⟩ hnotices
  rw [hcolored, hplain] at htable
  exact ⟨htable, hprinted⟩

end RoutineTiming
