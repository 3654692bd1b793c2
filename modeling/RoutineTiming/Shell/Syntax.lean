/-!
# Commands of the shell

A word is a sequence of parts: characters, marks of quotes, and expansions. A command is a simple
one, of assignments, words and redirections, or is built from others.

## Main definitions

* `Shell.Part`, `Shell.Word` : words.
* `Shell.Redirection` : where a command reads and writes.
* `Shell.Script` : commands.
-/

namespace RoutineTiming.Shell

/-! ### Names -/

/-- A character with which the name of a variable can begin. -/
def isNameStart (c : Char) : Bool := c.isAlpha || c = '_'

/-- A character that can stand in the name of a variable. -/
def isNameChar (c : Char) : Bool := isNameStart c || c.isDigit

/-- The text is the name of a variable. -/
def isName (text : String) : Bool :=
  match text.toList with
  | c :: rest => isNameStart c && rest.all isNameChar
  | [] => false

/-! ### Commands -/

/-- What an expansion makes of a parameter. -/
inductive Change where
  /-- Its value. -/
  | plain
  /-- The number of bytes in it. -/
  | length
  /-- A word in place of one that is unset, or that is also unset if it is empty. -/
  | fallback (emptyCounts : Bool)
  /-- The same, where the word becomes the value. -/
  | assign (emptyCounts : Bool)
  /-- The same, where the word is a complaint. -/
  | complain (emptyCounts : Bool)
  /-- A word in place of one that is set. -/
  | alternative (emptyCounts : Bool)
  /-- Its value without what a pattern matches at its end or at its beginning. -/
  | trim (atEnd longest : Bool)
  /-- None that there is. -/
  | unknown
  deriving DecidableEq

/-- How a redirection opens a file. -/
inductive Opening where
  | read
  | write
  /-- As for writing, though files that exist are not to be overwritten. -/
  | overwrite
  | append
  | readWrite
  deriving DecidableEq

mutual

/-- A part of a word. -/
inductive Part where
  /-- A character, and whether a quote takes its meaning away. -/
  | char (c : Char) (isQuoted : Bool)
  /-- The beginning or the end of quotes. -/
  | mark
  | parameter (name : String) (change : Change) (word : List Part)
  | arithmetic (expression : List Part)
  /-- The output of commands. -/
  | output (script : Script)

/-- A change of the channels of a command. -/
inductive Redirection where
  | open (channel : Nat) (opening : Opening) (path : List Part)
  /-- The channel becomes the one that the word names, or is closed if the word is a dash. -/
  | duplicate (channel : Nat) (word : List Part)
  /-- The channel reads the document with a number. -/
  | document (channel number : Nat)

/-- Commands. Those that complain know the line on which they begin. -/
inductive Script where
  | nothing
  | simple (line : Nat) (assignments words : List (List Part)) (redirections : List Redirection)
  | redirected (line : Nat) (body : Script) (redirections : List Redirection)
  | subshell (line : Nat) (body : Script) (redirections : List Redirection)
  | background (line : Nat) (body : Script) (redirections : List Redirection)
  | pipeline (commands : List Script) (isBackground : Bool)
  | negated (command : Script)
  | both (first second : Script)
  | ifSuccess (first second : Script)
  | ifFailure (first second : Script)
  | branch (condition thenDo elseDo : Script)
  /-- Commands repeated as long as a condition succeeds, or fails. -/
  | loop (whileSuccess : Bool) (condition body : Script)
  | each (line : Nat) (name : String) (words : List (List Part)) (body : Script)
  | choose (line : Nat) (subject : List Part) (arms : List (List (List Part) × Script))
  | define (name : String) (body : Script)

end

/-- A word. -/
abbrev Word := List Part

/-- The text of a redirection that stands in the script itself, and whether it is expanded. -/
structure Document where
  text : Word
  isExpanded : Bool

namespace Script

/-- The command runs nothing. -/
def isNothing : Script → Bool
  | nothing => true
  | _ => false

end Script

/-- The characters of a word that consists of nothing else. -/
def plainText? : Word → Option String
  | [] => some ""
  | .char c false :: rest => (plainText? rest).map fun text => String.singleton c ++ text
  | _ => none

/-- The word of some characters that are not quoted. -/
def Word.ofText (text : String) : Word := text.toList.map fun c => .char c false

end RoutineTiming.Shell
