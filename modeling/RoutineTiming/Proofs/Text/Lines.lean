import RoutineTiming.Text.Line

/-!
# The lines of a text

A text has lines in one way only, which says how it is put together: each line is followed by its
ending, except that a last line may have none. The lines that are cut out of a text are its lines.

## Main definitions

* `LineEnding` : a line feed, alone or behind a carriage return.
* `EndsInReturn` : the line has a carriage return at its end.
* `HasLines` : the text has the lines.
* `CompleteLines` : what follows the text begins a line.
* `IsPlainLine` : the line can be printed with any ending.
* `printedLines` : the text of lines with their endings.

## Main results

* `linesOf_eq_iff` : the lines that are cut out of a text are its lines.
* `HasLines.append` : the lines of a text behind complete lines.
* `hasLines_printedLines` : printed lines are the first lines of what they begin.
-/

namespace RoutineTiming

/-- How a line ends. -/
inductive LineEnding where
  | lineFeed
  | returnLineFeed
  deriving DecidableEq, Repr

/-- The characters of an ending. -/
def LineEnding.text : LineEnding → String
  | .lineFeed => "\n"
  | .returnLineFeed => "\r\n"

/-- The line has a carriage return at its end. -/
def EndsInReturn (line : String) : Prop := line.toList.getLast? = some '\r'

instance (line : String) : Decidable (EndsInReturn line) := inferInstanceAs (Decidable (_ = _))

/-- The text has the lines. A carriage return directly before a line feed belongs to the ending, so
that a line that ends in a line feed alone does not end in a carriage return. -/
inductive HasLines : String → List String → Prop
  | empty : HasLines "" []
  | unended {line : String} (hne : line ≠ "") (hline : '\n' ∉ line.toList) : HasLines line [line]
  | ended {line rest : String} {lines : List String} (ending : LineEnding)
      (hline : '\n' ∉ line.toList) (hreturn : ending = .lineFeed → ¬ EndsInReturn line)
      (hrest : HasLines rest lines) : HasLines (line ++ ending.text ++ rest) (line :: lines)

/-! ### Lines that are cut out -/

theorem cutLines_cons {c : Char} (h : c ≠ '\n') (current rest : List Char) :
    cutLines current (c :: rest) = cutLines (c :: current) rest :=
  if_neg h

/-- A line feed ends a line that has no carriage return at its end. -/
theorem cutLines_lineFeed {current : List Char} (h : current.head? ≠ some '\r')
    (rest : List Char) : cutLines current ('\n' :: rest) = current.reverse :: cutLines [] rest := by
  rw [cutLines]
  · rfl
  · rintro earlier rfl
    exact h rfl

theorem cutLines_returnLineFeed (current rest : List Char) :
    cutLines ('\r' :: current) ('\n' :: rest) = current.reverse :: cutLines [] rest :=
  rfl

/-- What stands in a line is gathered up to its ending. -/
theorem cutLines_append {line : List Char} (h : '\n' ∉ line) (current rest : List Char) :
    cutLines current (line ++ rest) = cutLines (line.reverse ++ current) rest := by
  induction line generalizing current with
  | nil => rfl
  | cons c line ih =>
    have hc : c ≠ '\n' := (List.ne_of_not_mem_cons h).symm
    rw [List.cons_append, cutLines_cons hc, ih (List.not_mem_of_not_mem_cons h),
      List.reverse_cons, List.append_assoc, List.singleton_append]

theorem linesOf_unended {line : String} (hne : line ≠ "") (hline : '\n' ∉ line.toList) :
    linesOf line = [line] := by
  have hgathered := cutLines_append hline [] []
  have hreverse : line.toList.reverse ≠ [] := fun h =>
    hne (String.toList_eq_nil_iff.mp (List.reverse_eq_nil_iff.mp h))
  rw [List.append_nil, List.append_nil, cutLines, if_neg hreverse, List.reverse_reverse]
    at hgathered
  rw [linesOf, hgathered, List.map_singleton, String.ofList_toList]

theorem linesOf_ended {line : String} (ending : LineEnding) (hline : '\n' ∉ line.toList)
    (hreturn : ending = .lineFeed → ¬ EndsInReturn line) (rest : String) :
    linesOf (line ++ ending.text ++ rest) = line :: linesOf rest := by
  have hcut : cutLines line.toList.reverse (ending.text.toList ++ rest.toList) =
      line.toList :: cutLines [] rest.toList := by
    cases ending with
    | lineFeed =>
      have hhead : line.toList.reverse.head? ≠ some '\r' := by
        rw [List.head?_reverse]
        exact hreturn rfl
      have hfeed := cutLines_lineFeed hhead rest.toList
      rwa [List.reverse_reverse] at hfeed
    | returnLineFeed =>
      have hfeed := cutLines_returnLineFeed line.toList.reverse rest.toList
      rwa [List.reverse_reverse] at hfeed
  rw [linesOf, String.toList_append, String.toList_append, List.append_assoc,
    cutLines_append hline, List.append_nil, hcut, List.map_cons, String.ofList_toList, linesOf]

/-- A line whose beginning has been gathered has, with all that follows it, the lines that are cut
out. -/
theorem hasLines_cutLines {current : List Char} (h : '\n' ∉ current) (rest : List Char) :
    HasLines (String.ofList (current.reverse ++ rest))
      ((cutLines current rest).map String.ofList) := by
  have hgathered {line : List Char} (hline : '\n' ∉ line) :
      '\n' ∉ (String.ofList line.reverse).toList := by
    rwa [String.toList_ofList, List.mem_reverse]
  have hended (line : List Char) (ending : LineEnding) (rest : List Char) :
      String.ofList (line ++ (ending.text.toList ++ rest)) =
        String.ofList line ++ ending.text ++ String.ofList rest := by
    rw [String.ofList_append, String.ofList_append, String.ofList_toList, String.append_assoc]
  induction rest generalizing current with
  | nil =>
    rw [cutLines, List.append_nil]
    split
    · next hnil =>
      rw [hnil]
      exact .empty
    · next hne =>
      refine .unended (fun hempty => hne ?_) (hgathered h)
      rwa [← String.toList_eq_nil_iff, String.toList_ofList, List.reverse_eq_nil_iff] at hempty
  | cons c rest ih =>
    by_cases hc : c = '\n'
    · subst hc
      have hrest : HasLines (String.ofList rest) ((cutLines [] rest).map String.ofList) :=
        ih List.not_mem_nil
      by_cases hhead : current.head? = some '\r'
      · obtain ⟨earlier, rfl⟩ := List.head?_eq_some_iff.mp hhead
        rw [cutLines_returnLineFeed, List.map_cons, List.reverse_cons, List.append_assoc]
        exact hended _ .returnLineFeed _ ▸ .ended .returnLineFeed
          (hgathered (List.not_mem_of_not_mem_cons h)) (fun h => nomatch h) hrest
      · rw [cutLines_lineFeed hhead, List.map_cons]
        refine hended _ .lineFeed _ ▸
          .ended .lineFeed (hgathered h) (fun _ hreturn => hhead ?_) hrest
        rwa [EndsInReturn, String.toList_ofList, List.getLast?_reverse] at hreturn
    · have hnext := ih (List.not_mem_cons_of_ne_of_not_mem (Ne.symm hc) h)
      rwa [List.reverse_cons, List.append_assoc, ← cutLines_cons hc] at hnext

/-- The lines that are cut out of a text are its lines. -/
theorem linesOf_eq_iff {text : String} {lines : List String} :
    linesOf text = lines ↔ HasLines text lines := by
  constructor
  · rintro rfl
    have hlines := hasLines_cutLines List.not_mem_nil text.toList
    rwa [List.reverse_nil, List.nil_append, String.ofList_toList] at hlines
  · intro h
    induction h with
    | empty => rfl
    | unended hne hline => exact linesOf_unended hne hline
    | ended ending hline hreturn _ ih => rw [linesOf_ended ending hline hreturn, ih]

theorem hasLines_linesOf (text : String) : HasLines text (linesOf text) := linesOf_eq_iff.mp rfl

/-! ### Complete lines -/

/-- The text is empty or ends in a line feed, so that what follows it begins a line. -/
def CompleteLines (text : String) : Prop := text = "" ∨ text.toList.getLast? = some '\n'

instance (text : String) : Decidable (CompleteLines text) :=
  inferInstanceAs (Decidable (_ ∨ _))

theorem CompleteLines.of_append {before text : String} (h : CompleteLines (before ++ text)) :
    CompleteLines text := by
  cases hlast : text.toList.getLast? with
  | none => exact .inl (String.toList_eq_nil_iff.mp (List.getLast?_eq_none_iff.mp hlast))
  | some c =>
    rcases h with h | h
    · rw [← String.toList_eq_nil_iff, String.toList_append, List.append_eq_nil_iff] at h
      rw [h.2] at hlast
      cases hlast
    · rw [String.toList_append, List.getLast?_append, hlast, Option.some_or] at h
      exact .inr (hlast.trans h)

/-- A text behind complete lines has these lines and then its own. -/
theorem HasLines.append {before text : String} {earlier lines : List String}
    (h : HasLines before earlier) (hbefore : CompleteLines before) (htext : HasLines text lines) :
    HasLines (before ++ text) (earlier ++ lines) := by
  induction h with
  | empty => rwa [String.empty_append]
  | unended hne hline =>
    rcases hbefore with hempty | hlast
    · exact absurd hempty hne
    · exact absurd (List.mem_of_getLast? hlast) hline
  | ended ending hline hreturn _ ih =>
    rw [String.append_assoc]
    exact .ended ending hline hreturn (ih hbefore.of_append)

/-! ### Printed lines -/

/-- A line that can be printed with any ending: it has no line feed, and no carriage return at its
end. -/
structure IsPlainLine (line : String) : Prop where
  lineFeed_notMem : '\n' ∉ line.toList
  not_endsInReturn : ¬ EndsInReturn line

/-- Lines printed one after the other, each with its ending. -/
def printedLines : List (String × LineEnding) → String
  | [] => ""
  | (line, ending) :: rest => line ++ ending.text ++ printedLines rest

theorem printedLines_lineFeed (lines : List String) :
    printedLines (lines.map fun line => (line, .lineFeed)) =
      String.join (lines.map fun line => line ++ "\n") := by
  induction lines with
  | nil => rfl
  | cons line lines ih =>
    rw [List.map_cons, printedLines, ih, List.map_cons, String.join_cons]
    rfl

/-- Printed lines are the first lines of a text that begins with them. -/
theorem hasLines_printedLines {lines : List (String × LineEnding)}
    (h : ∀ line ∈ lines, IsPlainLine line.1) {rest : String} {others : List String}
    (hrest : HasLines rest others) :
    HasLines (printedLines lines ++ rest) (lines.map Prod.fst ++ others) := by
  induction lines with
  | nil => rwa [printedLines, String.empty_append]
  | cons line lines ih =>
    obtain ⟨hline, hlines⟩ := List.forall_mem_cons.mp h
    rw [printedLines, String.append_assoc]
    exact .ended line.2 hline.lineFeed_notMem (fun _ => hline.not_endsInReturn) (ih hlines)

end RoutineTiming
