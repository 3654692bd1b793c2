import RoutineTiming.Shell.Builtin.Basic
import RoutineTiming.Shell.Expansion
import RoutineTiming.Shell.Formatted

/-!
# Builtins that write and read

The builtins that print texts, and the one that reads a line into variables.

## Main definitions

* `Shell.runEcho`, `Shell.runPrintf` : the output of texts.
* `Shell.readFields`, `Shell.runRead` : the input of a line.
-/

namespace RoutineTiming.Shell

/-- The builtin `echo`. -/
def runEcho : Builtin := fun arguments => do
  let (ending, arguments) : List Char × List String :=
    match arguments with
    | "-n" :: rest => ([], rest)
    | all => (['\n'], all)
  let (text, ends) := echoed arguments
  printBytes (charBytes (if ends then text else text ++ ending))
  return 0

/-- The builtin `printf`. -/
def runPrintf : Builtin := fun arguments => do
  match ← takeNoOptions arguments with
  | format :: arguments =>
    let isSound ← printFormatted format arguments
    return if isSound then 0 else 1
  | [] => fault "usage: printf format [arg ...]"

/-! ### Input -/

/-- A line that is read up to some place. -/
structure LineReading where
  /-- The pieces that are complete, the latest first. -/
  pieces : List Piece := []
  /-- The characters of the piece at hand, the latest first. -/
  current : List Char := []
  /-- The last character was a backslash that guards the next one. -/
  isGuarded : Bool := false
  /-- How many bytes were read of the text at hand. -/
  count : Nat := 0
  isComplete : Bool := false

namespace LineReading

/-- The piece at hand is complete. -/
def close (l : LineReading) : LineReading :=
  let glyphs := l.current.reverse.map Glyph.plain
  { l with pieces := { glyphs, division := .atBlanks } :: l.pieces, current := [] }

/-- One more character. -/
def step (isRaw : Bool) (l : LineReading) (c : Char) : LineReading :=
  let l := { l with count := l.count + 1 }
  if c = '\x00' then l
  else if l.isGuarded then
    let l := { l.close with isGuarded := false }
    if c = '\n' then l else { l with pieces := { glyphs := [.quoted c] } :: l.pieces }
  else if c = '\\' ∧ !isRaw then { l with isGuarded := true }
  else if c = '\n' then { l with isComplete := true }
  else { l with current := c :: l.current }

/-- The line that a reading and the text behind it begin with, as far as the text goes. -/
def readOn (isRaw : Bool) : LineReading → List Char → LineReading
  | l, [] => l
  | l, c :: rest =>
    let l := l.step isRaw c
    if l.isComplete then l else readOn isRaw l rest

end LineReading

/-- Variables get the fields of a line; those for which there are none are empty. -/
def assignFields : List String → List String → Run Unit
  | [], _ => return ()
  | name :: names, fields => do
    assignTo name (fields.head?.getD "")
    assignFields names fields.tail

/-- The next line on the standard input. -/
def takeLine (isRaw : Bool) : Run LineReading :=
  repeated (fun line => do
    let state ← get
    let next : Except SystemFault (Channel × List UInt8 × World) := do
      let channel ← state.process.openChannel 0
      let (bytes, world) ← state.world.peek channel
      return (channel, bytes, world)
    match next with
    | .error _ => return .inr line.close
    | .ok (_, [], world) =>
      set { state with world }
      return .inr line.close
    | .ok (channel, bytes, world) =>
      let line := LineReading.readOn isRaw { line with count := 0 } (byteText bytes).toList
      set { state with world := world.advance channel line.count }
      return if line.isComplete then .inr line.close else .inl line) {}

/-- The builtin `read`. -/
def runRead : Builtin := fun arguments => do
  let (options, names) ← takeOptions [('p', true), ('r', false)] arguments
  if names.isEmpty then fault "arg count"
  let line ← takeLine (options.any fun o => o.1 = 'r')
  let fields := fieldsOf (← get).separators (some names.length) line.pieces.reverse
  assignFields names (fields.map glyphText)
  return if line.isComplete then 0 else 1

end RoutineTiming.Shell
