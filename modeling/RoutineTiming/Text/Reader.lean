/-!
# Reading a text from the front

A reader takes something off the front of a text and leaves the rest, or finds that the text does
not begin so.

## Main definitions

* `Reader` : the readers.
* `many` : a reader applied as often as it succeeds.
* `expect` : a beginning that the text must have.
-/

namespace RoutineTiming

/-- A way to take something off the front of a text; `none` if the text does not begin so. -/
abbrev Reader (α : Type) := List Char → Option (α × List Char)

/-- What a reader takes off one after the other, as long as it succeeds and shortens the text, and
what remains. -/
def many {α : Type} (reader : Reader α) (text : List Char) : List α × List Char :=
  match reader text with
  | some (a, rest) =>
    if rest.length < text.length then
      let (as, remaining) := many reader rest
      (a :: as, remaining)
    else
      ([], text)
  | none => ([], text)
termination_by text.length

section

variable {α : Type} {reader : Reader α} {text : List Char}

theorem many_of_some {a : α} {rest : List Char} (h : reader text = some (a, rest))
    (hshorter : rest.length < text.length) :
    many reader text = (a :: (many reader rest).1, (many reader rest).2) := by
  rw [many, h]
  exact if_pos hshorter

theorem many_of_none (h : reader text = none) : many reader text = ([], text) := by
  rw [many, h]

end

/-- The text behind a beginning that it must have. -/
def expect (beginning : List Char) (text : List Char) : Option (List Char) :=
  match beginning, text with
  | [], text => some text
  | b :: beginning, c :: text => if b = c then expect beginning text else none
  | _ :: _, [] => none

end RoutineTiming
