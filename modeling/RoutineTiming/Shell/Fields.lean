import RoutineTiming.Shell.Pattern

/-!
# The fields of a word

An expanded word is a sequence of pieces. What an expansion outside quotes gives is divided into
fields at the characters of the variable `IFS`, where blanks count only once and not at the ends;
all arguments together are divided between any two of them. All else stays together.

## Main definitions

* `Shell.Division`, `Shell.Piece` : the pieces of an expanded word.
* `Shell.Splitting` : a word that is divided up to some place.
* `Shell.fieldsOf` : the fields of pieces.
-/

namespace RoutineTiming.Shell

/-- How a piece of a word is divided. -/
inductive Division where
  | never
  | atBlanks
  /-- Only between arguments. -/
  | atArguments
  deriving DecidableEq

/-- A piece of an expanded word. -/
structure Piece where
  glyphs : List Glyph
  division : Division := .never

/-- The characters at which expansions are divided, if the variable `IFS` does not say otherwise. -/
def defaultBlanks : List Char := [' ', '\t', '\n']

/-- A word that is divided up to some place. -/
structure Splitting where
  /-- The fields, the latest first. -/
  fields : List (List Glyph) := []
  /-- The field at hand, the latest glyph first. -/
  current : List Glyph := []
  /-- How many fields there may still be, if their number is limited. -/
  remaining : Option Nat := none
  /-- The last field up to the blanks at its end. -/
  trimmed : Option (List Glyph) := none
  /-- The last piece that was divided holds arguments. -/
  wasArguments : Bool := false
  /-- The last character at which the piece was divided is a blank. -/
  isBehindBlank : Bool := false
  /-- What follows the end of a field is being passed over. -/
  isSkipping : Bool := false

namespace Splitting

/-- One more glyph in the field at hand. -/
def add (s : Splitting) (g : Glyph) : Splitting := { s with current := g :: s.current }

/-- A glyph of the last field, where nothing is divided any more. -/
def addLast (s : Splitting) (g : Glyph) (divides isBlank : Bool) : Splitting :=
  if isBlank then { s with trimmed := some (s.trimmed.getD s.current) }.add g
  else
    let trimmed := if divides && s.isBehindBlank then s.trimmed else none
    { s with trimmed, isBehindBlank := false }.add g

/-- The field at hand ends. -/
def endField (s : Splitting) (isArguments : Bool) : Splitting :=
  { s with fields := s.current :: s.fields, current := [], isSkipping := !isArguments }

/-- A glyph at which a piece is divided. -/
def divide (s : Splitting) (g : Glyph) (behindArguments isArguments isBlank : Bool) : Splitting :=
  let s := if behindArguments || isArguments then s else { s with isBehindBlank := isBlank }
  if s.current.isEmpty && s.isBehindBlank then { s with isBehindBlank := false }
  else
    match s.remaining with
    | some 1 => { s with remaining := some 0, trimmed := some s.current }.add g
    | some n => { s with remaining := some (n - 1) }.endField isArguments
    | none => s.endField isArguments

/-- A glyph of a piece that is divided. -/
def step (separators : List Char) (behindArguments isArguments : Bool) (s : Splitting)
    (g : Glyph) : Splitting :=
  let separators := if isArguments then [] else separators
  let divides := match g with
    | .separator => true
    | .plain c => separators.contains c
    | .quoted c => separators.contains c
    | .mark => false
  let isBlank := divides && match g.char? with
    | some c => defaultBlanks.contains c
    | none => true
  if s.remaining = some 0 then s.addLast g divides isBlank
  else if s.isSkipping && isBlank then s
  else if s.isSkipping && divides && s.isBehindBlank then { s with isBehindBlank := false }
  else
    let s := { s with isSkipping := false }
    if divides then s.divide g behindArguments isArguments isBlank else s.add g

/-- One more piece. -/
def piece (separators : List Char) (s : Splitting) (p : Piece) : Splitting :=
  match p.division with
  | .never => p.glyphs.foldl add s
  | division =>
    let isArguments := decide (division = .atArguments)
    let start := { s with wasArguments := isArguments, isBehindBlank := false }
    let s := p.glyphs.foldl (step separators s.wasArguments isArguments) start
    { s with isSkipping := false }

/-- The fields, with the last one, which counts if there is something in it or if it is that of an
argument. -/
def result (s : Splitting) : List (List Glyph) :=
  let last := s.trimmed.getD s.current
  let fields := if last.isEmpty && !s.wasArguments then s.fields else last :: s.fields
  fields.reverse.map List.reverse

end Splitting

/-- The fields of pieces, at most as many as the limit says. -/
def fieldsOf (separators : List Char) (limit : Option Nat) (pieces : List Piece) :
    List (List Glyph) :=
  (pieces.foldl (Splitting.piece separators) { remaining := limit }).result

/-- The glyphs of pieces that are not divided. -/
def joined (pieces : List Piece) : List Glyph := pieces.flatMap Piece.glyphs

end RoutineTiming.Shell
