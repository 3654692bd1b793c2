/-!
# Coloured text

A text is painted by putting it between two terminal sequences, one that switches a style on and
one that switches it off. Painting can be switched off as a whole, which leaves the text as it is.

## Main definitions

* `Paint` : the styles in use.
* `Paint.apply` : a text in a style, if painting is on.
-/

namespace RoutineTiming

/-- The styles of painted text. -/
inductive Paint where
  | bold
  | cyan
  | faint
  | yellow
  deriving DecidableEq, Repr

namespace Paint

/-- The terminal sequence with the given number: escape, bracket, number, `m`. -/
def sequence (number : List Char) : List Char := ['\x1b', '['] ++ number ++ ['m']

/-- The sequence that switches a style on. -/
def on : Paint → List Char
  | .bold => sequence ['1']
  | .cyan => sequence ['3', '6']
  | .faint => sequence ['2']
  | .yellow => sequence ['3', '3']

/-- The sequence that switches a style off: the colour alone for yellow, every style for the
others. -/
def off : Paint → List Char
  | .yellow => sequence ['3', '9']
  | _ => sequence ['0']

/-- The text in a style if `colored`, else the text itself. -/
def apply (paint : Paint) (colored : Bool) (text : String) : String :=
  if colored then String.ofList (paint.on ++ text.toList ++ paint.off) else text

end Paint

end RoutineTiming
