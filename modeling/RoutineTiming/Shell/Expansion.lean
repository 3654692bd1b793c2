import RoutineTiming.Shell.Arithmetic
import RoutineTiming.Shell.Fields

/-!
# Expansions

A word is expanded part by part: parameters, arithmetic and the output of commands are replaced, and
a tilde at the beginning of a path stands for a directory. What the word becomes depends on the
place where it stands: the words of a command are divided into fields and stand for the files that
match them, other words are not. How the output of commands comes about is a parameter here.

## Main definitions

* `Shell.Capture` : a way to get at the output of commands.
* `Shell.Manner` : the place where a word stands.
* `Shell.expand` : the pieces of an expanded word.
* `Shell.expandFields`, `Shell.expandText`, `Shell.expandAssignment`, `Shell.expandPattern` : the
  words of a command, and words in other places.
-/

namespace RoutineTiming.Shell

/-- A way to get at the output of commands. -/
abbrev Capture := Script → Run String

/-- The place where a word stands. -/
structure Manner where
  /-- The word is divided into fields. -/
  isDivided : Bool := false
  /-- The word stands inside quotes. -/
  isQuoted : Bool := false
  /-- The word stands inside an expansion in braces, in place of a parameter. -/
  isInside : Bool := false
  /-- A tilde stands for a directory behind colons too. -/
  isAssigned : Bool := false

/-! ### Parameters -/

/-- The glyphs of a text, which stands inside quotes or not. -/
def glyphsOf (isQuoted : Bool) (text : String) : List Glyph :=
  text.toList.map fun c => if isQuoted then .quoted c else .plain c

namespace State

/-- The characters at which expansions are divided. -/
def separators (state : State) : List Char :=
  match state.value? "IFS" with
  | some text => text.toList
  | none => defaultBlanks

/-- What stands between the arguments when all of them are expanded: a boundary, the first
separator, or nothing. -/
def argumentGap (state : State) (manner : Manner) (isEach : Bool) : List Glyph :=
  if manner.isDivided ∧ (isEach ∨ !manner.isQuoted) then [.separator]
  else
    match state.value? "IFS" with
    | none => glyphsOf manner.isQuoted " "
    | some text => glyphsOf manner.isQuoted (String.ofList (text.toList.take 1))

/-- The letters of the options that are on. -/
def optionLetters (state : State) : String :=
  String.ofList (optionNames.reverse.filterMap fun (name, letter) =>
    if state.hasOption name then letter else none)

/-- The argument with a number, or the title. -/
def argument? (state : State) (number : Nat) : Option String :=
  if number = 0 then some state.title else state.arguments[number - 1]?

/-- What a parameter is, if it is set. -/
def parameter? (state : State) (manner : Manner) (name : String) : Option (List Glyph) :=
  let glyphs := glyphsOf manner.isQuoted
  match name with
  | "$" => some (glyphs (numeral state.identity))
  | "?" => some (glyphs (numeral state.status))
  | "#" => some (glyphs (numeral state.arguments.length))
  | "!" => state.lastJob.map fun number => glyphs (numeral number)
  | "-" => some (glyphs state.optionLetters)
  | "@" => some ((state.argumentGap manner true).intercalate (state.arguments.map glyphs))
  | "*" => some ((state.argumentGap manner false).intercalate (state.arguments.map glyphs))
  | name =>
    if name.toList.all Char.isDigit then
      (state.argument? (digitsValue 0 name.toList)).map glyphs
    else (state.value? name).map glyphs

end State

/-- The piece of a parameter. -/
def parameterPiece (state : State) (manner : Manner) (name : String) (glyphs : List Glyph) :
    Piece :=
  if !manner.isQuoted then { glyphs, division := .atBlanks }
  else if manner.isDivided ∧ name = "@" ∧ !state.arguments.isEmpty then
    { glyphs, division := .atArguments }
  else { glyphs }

/-- The fault that a parameter is not set. -/
def unsetFault {α : Type} (name : String) : Run α := fault (name ++ ": parameter not set")

/-- The value without the shortest or the longest part at an end that a pattern matches. -/
def trimmed (pattern : List Char) (atEnd longest : Bool) (value : List Glyph) : List Glyph :=
  let items := patternItems pattern.length pattern
  let text := value.map fun g => (g.char?).getD '\x00'
  let cuts := List.range (value.length + 1)
  let fits (n : Nat) : Bool :=
    if atEnd then itemsMatch items (text.drop n) else itemsMatch items (text.take n)
  let order := if atEnd = longest then cuts else cuts.reverse
  match order.find? fits with
  | some n => if atEnd then value.take n else value.drop n
  | none => value

/-! ### Tildes -/

/-- The home directory of a user that the list of users names. -/
def State.homeOf (state : State) (user : String) : Option String :=
  match state.world.files.resolveFrom [] "/etc/passwd" with
  | .ok (_, .file bytes _) =>
    ((byteText bytes).splitOn "\n").findSome? fun line =>
      match line.splitOn ":" with
      | name :: _ :: _ :: _ :: _ :: home :: _ => if name = user then some home else none
      | _ => none
  | _ => none

/-- The name of a user behind a tilde, and the parts behind the name, unless a quote comes first. -/
def takeUser? (isAssigned : Bool) : List Part → Option (List Char × List Part)
  | [] => some ([], [])
  | .mark :: _ => none
  | .char _ true :: _ => none
  | .char c false :: rest =>
    if c = '/' ∨ (c = ':' ∧ isAssigned) then some ([], .char c false :: rest)
    else (takeUser? isAssigned rest).map fun (name, behind) => (c :: name, behind)
  | _ :: _ => none

/-- The directory that a tilde at the beginning of some parts stands for, and the parts behind. -/
def takeTilde? (state : State) (isAssigned : Bool) : List Part → Option (String × List Part)
  | .char '~' false :: rest => do
    let (name, behind) ← takeUser? isAssigned rest
    let home ← if name = [] then state.value? "HOME" else state.homeOf (String.ofList name)
    return (home, behind)
  | _ => none

/-! ### Parts -/

/-- How far the expansion of a word has come. -/
structure Progress where
  rest : List Part
  pieces : List Piece := []
  inQuotes : Bool := false
  /-- A tilde would stand for a directory here. -/
  mayBeTilde : Bool := true

/-- The characters at the front of some parts, and the parts behind. -/
def takeChars : List Part → List Char × List Part
  | .char c false :: rest =>
    let (more, behind) := takeChars rest
    (c :: more, behind)
  | parts => ([], parts)

/-- The characters up to a colon and with it, the characters behind, and whether there is one. -/
def takeToColon : List Char → List Char × List Char × Bool
  | [] => ([], [], false)
  | ':' :: rest => ([':'], rest, true)
  | c :: rest =>
    let (more, behind, isFound) := takeToColon rest
    (c :: more, behind, isFound)

/-- The value of a parameter that must be set if the shell asks for that. -/
def required (manner : Manner) (name : String) : Run (List Glyph) := do
  let state ← get
  match state.parameter? manner name with
  | some glyphs => return glyphs
  | none => if state.hasOption "nounset" then unsetFault name else return []

/-- The text of a number as a piece. -/
def numberPiece (manner : Manner) (n : Int) : Piece :=
  { glyphs := glyphsOf manner.isQuoted (String.ofList (integerDigits n))
    division := if manner.isQuoted then .never else .atBlanks }

/-- The pieces of a parameter under a change, where the words inside are expanded as given. -/
def expandParameter (expandWord : Manner → Word → Run (List Piece)) (manner : Manner)
    (name : String) (change : Change) (word : Word) : Run (List Piece) := do
  let state ← get
  let value? := state.parameter? manner name
  let value (emptyCounts : Bool) : Option (List Glyph) :=
    value?.filter fun glyphs => !(emptyCounts && glyphs.isEmpty)
  let shown (glyphs : List Glyph) : List Piece := [parameterPiece state manner name glyphs]
  let inside : Manner := { manner with isInside := true }
  match change with
  | .plain => return shown (← required manner name)
  | .length => return [numberPiece manner (← required manner name).length]
  | .fallback emptyCounts =>
    match value emptyCounts with
    | some glyphs => return shown glyphs
    | none => expandWord inside word
  | .alternative emptyCounts =>
    match value emptyCounts with
    | some _ => expandWord inside word
    | none => return []
  | .assign emptyCounts =>
    match value emptyCounts with
    | some glyphs => return shown glyphs
    | none =>
      let pieces ← expandWord { isQuoted := manner.isQuoted } word
      let text := glyphText (joined pieces)
      if (name.toList.head?).any isNameStart then assign name text
      else fault (name ++ ": bad variable name")
      let state ← get
      return shown ((state.parameter? manner name).getD [])
  | .complain emptyCounts =>
    match value emptyCounts with
    | some glyphs => return shown glyphs
    | none =>
      if word.isEmpty then
        fault (name ++ ": parameter not set" ++ if emptyCounts then " or null" else "")
      let pieces ← expandWord { isQuoted := manner.isQuoted } word
      fault (name ++ ": " ++ glyphText (joined pieces))
  | .trim atEnd longest =>
    let glyphs ← required manner name
    if value?.isNone then return shown []
    let pieces ← expandWord {} word
    return shown (trimmed (glyphPattern (joined pieces)) atEnd longest glyphs)
  | .unknown => fault "Bad substitution"

/-- The parts behind all arguments in quotes of their own, if these stand at the front. -/
def behindArguments? : List Part → Option (List Part)
  | .mark :: .parameter "@" .plain [] :: .mark :: rest => some rest
  | _ => none

/-- One step of the expansion of a word, where the words inside are expanded as given. -/
def expandStep (expandWord : Manner → Word → Run (List Piece)) (capture : Capture)
    (manner : Manner) (progress : Progress) : Run (Progress ⊕ List Piece) := do
  let here : Manner := { manner with isQuoted := manner.isQuoted || progress.inQuotes }
  let after (rest : List Part) (pieces : List Piece) : Progress ⊕ List Piece :=
    .inl { progress with
      rest, pieces := pieces.reverse ++ progress.pieces, mayBeTilde := false }
  let state ← get
  let tilde :=
    if progress.mayBeTilde ∧ !here.isQuoted then
      takeTilde? state manner.isAssigned progress.rest
    else none
  if let some rest := if here.isQuoted then none else behindArguments? progress.rest then
    return after rest (← expandParameter expandWord { here with isQuoted := true } "@" .plain [])
  match tilde, progress.rest with
  | some (home, rest), _ => return after rest [{ glyphs := glyphsOf true home }]
  | none, [] => return .inr progress.pieces.reverse
  | none, .mark :: rest =>
    return .inl { progress with
      rest
      pieces := { glyphs := [.mark] } :: progress.pieces
      inQuotes := !progress.inQuotes
      mayBeTilde := false }
  | none, .char c true :: rest => return after rest [{ glyphs := [.quoted c] }]
  | none, .char c false :: parts =>
    let (chars, behind) := takeChars (.char c false :: parts)
    let (taken, left, mayBeTilde) :=
      if manner.isAssigned then takeToColon chars else (chars, [], false)
    let division := if manner.isInside ∧ !here.isQuoted then Division.atBlanks else .never
    let piece : Piece := { glyphs := glyphsOf here.isQuoted (String.ofList taken), division }
    return .inl { progress with
      rest := left.map (.char · false) ++ behind
      pieces := piece :: progress.pieces
      mayBeTilde }
  | none, .parameter name change word :: rest =>
    return after rest (← expandParameter expandWord here name change word)
  | none, .arithmetic expression :: rest =>
    let pieces ← expandWord { isQuoted := true } expression
    let n ← evaluate (glyphText (joined pieces))
    return after rest [numberPiece here n]
  | none, .output script :: rest =>
    let text ← capture script
    let division := if here.isQuoted then Division.never else .atBlanks
    return after rest [{ glyphs := glyphsOf here.isQuoted text, division }]

/-- The pieces of a word, in which expansions stand inside one another at most as often as given. -/
def expandWord (capture : Capture) : (levels : Nat) → Manner → Word → Run (List Piece)
  | 0, _, _ => fault "Bad substitution"
  | levels + 1, manner, word =>
    repeated (expandStep (expandWord capture levels) capture manner) { rest := word }

/-- How often expansions can stand inside one another. -/
def expansionLevels : Nat := 1000

/-- The pieces of a word. -/
def expand (capture : Capture) (manner : Manner) (word : Word) : Run (List Piece) :=
  expandWord capture expansionLevels manner word

/-! ### Files that match -/

/-- The names in the directory at a path that a pattern matches. Names that begin with a dot are
matched only by patterns that do. -/
def matchingNames (state : State) (path : String) (pattern : List Char) : List String :=
  match state.world.files.resolveFrom state.process.directory (if path = "" then "." else path) with
  | .ok (place, .directory) =>
    let isHidden (name : String) : Bool := name.toList.head? = some '.'
    let wantsHidden := (unguarded pattern).head? = some '.'
    let items := patternItems pattern.length pattern
    let names := if wantsHidden then "." :: ".." :: state.world.files.names place
      else state.world.files.names place
    names.filter fun name => isHidden name = wantsHidden && itemsMatch items name.toList
  | _ => []

/-- The paths behind a path that match the parts of a pattern. -/
def matchingPaths (state : State) (path : String) : List (List Char) → List String
  | [] => []
  | [pattern] =>
    if hasMeaning pattern then (matchingNames state path pattern).map (path ++ ·)
    else
      let path := path ++ String.ofList (unguarded pattern)
      match state.world.files.resolveFrom state.process.directory path with
      | .ok _ => [path]
      | .error _ => []
  | pattern :: more =>
    if hasMeaning pattern then
      (matchingNames state path pattern).flatMap fun name =>
        matchingPaths state (path ++ name ++ "/") more
    else matchingPaths state (path ++ String.ofList (unguarded pattern) ++ "/") more

/-- The parts of a pattern between slashes. -/
def patternParts (pattern : List Char) : List (List Char) :=
  ((String.ofList pattern).splitOn "/").map String.toList

/-- The texts that a field stands for: the files that match it, or itself if there are none. -/
def filesOfField (state : State) (field : List Glyph) : List String :=
  let pattern := glyphPattern field
  if state.hasOption "noglob" ∨ !hasMeaning pattern then [glyphText field]
  else
    match matchingPaths state "" (patternParts pattern) with
    | [] => [glyphText field]
    | paths => paths.mergeSort (· ≤ ·)

/-! ### Words in their places -/

/-- The fields that a word of a command becomes. -/
def expandFields (capture : Capture) (word : Word) : Run (List String) := do
  let pieces ← expand capture { isDivided := true } word
  let state ← get
  return (fieldsOf state.separators none pieces).flatMap (filesOfField state)

/-- The text that a word becomes where it is not divided. -/
def expandText (capture : Capture) (word : Word) : Run String := do
  return glyphText (joined (← expand capture {} word))

/-- The text that the value of an assignment becomes. -/
def expandAssignment (capture : Capture) (word : Word) : Run String := do
  return glyphText (joined (← expand capture { isAssigned := true } word))

/-- The pattern that a word becomes. -/
def expandPattern (capture : Capture) (word : Word) : Run (List Char) := do
  return glyphPattern (joined (← expand capture {} word))

/-- The text that a document becomes. -/
def expandDocument (capture : Capture) (document : Document) : Run String := do
  if document.isExpanded then
    return glyphText (joined (← expand capture { isQuoted := true } document.text))
  else
    return glyphText (document.text.filterMap fun
      | .char c _ => some (.quoted c)
      | _ => none)

end RoutineTiming.Shell
