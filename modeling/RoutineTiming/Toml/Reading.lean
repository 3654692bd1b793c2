import RoutineTiming.Text.Radix
import RoutineTiming.Text.Reader

/-!
# What stands between the values of a TOML document

Blanks are spaces and tabs. A comment runs from a hash sign to the end of its line. A line ends at a
line feed, which may follow a carriage return.

## Main definitions

* `Toml.skipBlanks`, `Toml.skipFiller` : the text behind blanks, and behind lines and comments too.
* `Toml.endLine` : the text behind the end of a line.
* `Toml.takeDecimal` : a number with a fixed count of digits.
-/

namespace RoutineTiming.Toml

/-- Exactly `count` digits of a base as the number that they denote. -/
def takeDigits (base : Nat) (isDigit : Char → Bool) (count : Nat) : Reader Nat := fun text =>
  let digits := text.take count
  if digits.length = count ∧ digits.all isDigit then
    some (radixValue base digits, text.drop count)
  else
    none

/-- Exactly `count` decimal digits as the number that they denote. -/
def takeDecimal (count : Nat) : Reader Nat := takeDigits 10 Char.isDigit count

/-! ### Between values -/

/-- A space or a tab. -/
def isGap (c : Char) : Bool := c = ' ' || c = '\t'

/-- A character that may stand in a comment: a tab, or any character that is no control. -/
def isCommentChar (c : Char) : Bool := c = '\t' || (0x20 ≤ c.toNat && c.toNat ≠ 0x7F)

/-- The text without the spaces and tabs at its front. -/
def skipBlanks (text : List Char) : List Char := text.dropWhile isGap

/-- A line feed, alone or behind a carriage return. -/
def takeLineFeed : Reader Unit
  | '\n' :: rest => some ((), rest)
  | '\r' :: '\n' :: rest => some ((), rest)
  | _ => none

/-- The text behind a comment, if one stands at its front. -/
def skipComment : List Char → List Char
  | '#' :: rest => rest.dropWhile isCommentChar
  | text => text

/-- One piece of what may stand between the elements of an array: blanks, a line feed or a
comment. -/
def takeFiller : Reader Unit := fun text =>
  match text with
  | '#' :: rest => some ((), rest.dropWhile isCommentChar)
  | c :: rest => if isGap c then some ((), rest.dropWhile isGap) else takeLineFeed text
  | [] => none

/-- The text without blanks, line feeds and comments at its front. -/
def skipFiller (text : List Char) : List Char := (many takeFiller text).2

/-- The text behind the end of a line: blanks, an optional comment, and a line feed unless the
whole text ends. -/
def endLine (text : List Char) : Option (List Char) :=
  match skipComment (skipBlanks text) with
  | [] => some []
  | rest => (takeLineFeed rest).map Prod.snd

end RoutineTiming.Toml
