import RoutineTiming.Shell.Syntax

/-!
# The text of a script while it is read

A script is read from a text, character by character, where a backslash in front of the end of a
line joins two lines. The reader keeps the token that it read last, since a token may be looked at
again, and the documents that the lines behind a command are to hold.

## Main definitions

* `Shell.Token` : the tokens of a script.
* `Shell.Source` : the text that is left, and what is known about it.
* `Shell.Parse` : reading, which may end with a fault.
* `Shell.iterate` : steps of reading that are repeated.
-/

namespace RoutineTiming.Shell

/-- A token. -/
inductive Token where
  | endOfFile
  | newline
  | semicolon
  | doubleSemicolon
  | ampersand
  | doubleAmpersand
  | bar
  | doubleBar
  | leftParen
  | rightParen
  /-- A word, and whether some of it is quoted. -/
  | word (word : Word) (isQuoted : Bool)
  /-- A redirection without the word behind it: its channel and its kind. -/
  | redirection (channel : Nat) (kind : String)
  /-- A word that has a meaning of its own in the grammar. -/
  | reserved (text : String)

/-- The words that have a meaning of their own in the grammar. -/
def reservedWords : List String :=
  ["!", "case", "do", "done", "elif", "else", "esac", "fi", "for", "if", "in", "then", "until",
    "while", "\x7b", "\x7d"]

namespace Token

/-- The token as complaints name it. -/
def name : Token → String
  | .endOfFile => "end of file"
  | .newline => "newline"
  | .semicolon => "\";\""
  | .doubleSemicolon => "\";;\""
  | .ampersand => "\"&\""
  | .doubleAmpersand => "\"&&\""
  | .bar => "\"|\""
  | .doubleBar => "\"||\""
  | .leftParen => "\"(\""
  | .rightParen => "\")\""
  | .word .. => "word"
  | .redirection .. => "redirection"
  | .reserved text => "\"" ++ text ++ "\""

/-- The token is a given reserved word. -/
def isReserved (token : Token) (text : String) : Bool :=
  match token with
  | .reserved t => t = text
  | _ => false

/-- The word that the token is or could be. -/
def asWord : Token → Word
  | .word parts _ => parts
  | .reserved text => Word.ofText text
  | _ => []

/-- The token ends a list of commands inside another command. -/
def endsList : Token → Bool
  | .endOfFile => true
  | .rightParen => true
  | .doubleSemicolon => true
  | .reserved text =>
    ["do", "done", "elif", "else", "esac", "fi", "then", "\x7d"].contains text
  | _ => false

end Token

/-- What is to be looked for when the next token is read. -/
structure Checks where
  /-- The ends of lines are passed over. -/
  newlines : Bool := false
  reserved : Bool := false
  aliases : Bool := false
  /-- The token is the end mark of a document. -/
  endMark : Bool := false

/-- Everything is looked for in front of a command. -/
def Checks.command : Checks := { newlines := true, reserved := true, aliases := true }

/-- A document that is still to be read: its number, the line that ends it, whether tabs in front
of its lines are dropped, and whether it is expanded. -/
structure AwaitedDocument where
  number : Nat
  endMark : List Char
  dropsTabs : Bool
  isExpanded : Bool

/-- The text of an alias that is being read. -/
structure OpenAlias where
  name : String
  /-- How much text is left behind that of the alias. -/
  behind : Nat
  /-- The text ends with a blank, so that the next word is looked up too. -/
  endsBlank : Bool

/-- The text that is left of a script. -/
structure Source where
  rest : List Char
  line : Nat := 1
  /-- A number that is larger than the number of characters and of tokens ever to be read. -/
  bound : Nat
  aliases : List (String × String) := []
  openAliases : List OpenAlias := []
  last : Token := .newline
  /-- The last token is read again. -/
  isPushedBack : Bool := false
  checks : Checks := {}
  awaited : List AwaitedDocument := []
  /-- The documents that were read, by their numbers. -/
  documents : Array Document := #[]

namespace Source

/-- The source of a text, where some aliases are known. -/
def ofText (text : List Char) (aliases : List (String × String) := [])
    (documents : Array Document := #[]) : Source :=
  let growth := (aliases.map fun e => e.2.length).foldl (· + ·) 1
  { rest := text, bound := (text.length + 2) * growth + 2, aliases, documents }

/-- The source is about to give the end of the file again. -/
def isAtEnd (source : Source) : Bool :=
  source.isPushedBack && match source.last with
    | .endOfFile => true
    | _ => false

end Source

/-- Why a script is not well formed, and where. -/
structure SyntaxFault where
  line : Nat
  text : String

/-- Reading. -/
abbrev Parse := StateT Source (Except SyntaxFault)

/-- The fault with a text on the line at hand. -/
def fail {α : Type} (text : String) : Parse α := do
  throw ⟨(← get).line, text⟩

/-- Steps repeated until one of them gives a result, at most as often as given. -/
def iterate {α β : Type} (step : α → Parse (α ⊕ β)) : Nat → α → Parse β
  | 0, _ => fail "input too long"
  | n + 1, a => do
    match ← step a with
    | .inl next => iterate step n next
    | .inr result => return result

/-- Steps repeated as often as the source allows. -/
def iterateAll {α β : Type} (step : α → Parse (α ⊕ β)) (start : α) : Parse β := do
  iterate step (← get).bound start

/-! ### Characters -/

/-- The text behind joined lines, and how many lines were joined. -/
def skipJoins (joined : Nat) : List Char → List Char × Nat
  | '\\' :: '\n' :: rest => skipJoins (joined + 1) rest
  | text => (text, joined)

/-- The next character, if there is one. -/
def nextChar : Parse (Option Char) := do
  let source ← get
  match source.rest with
  | c :: rest =>
    set { source with rest }
    return some c
  | [] => return none

/-- Joined lines are passed over. -/
def passJoins : Parse Unit :=
  modify fun source =>
    let (rest, joined) := skipJoins 0 source.rest
    { source with rest, line := source.line + joined }

/-- The next character behind joined lines, if there is one. -/
def nextJoined : Parse (Option Char) := do
  passJoins
  nextChar

/-- A character is to be read again. -/
def pushBack (c : Option Char) : Parse Unit :=
  modify fun source => { source with rest := c.toList ++ source.rest }

/-- A line is over. -/
def countLine : Parse Unit := modify fun source => { source with line := source.line + 1 }

/-- The next character is a given one, which is then read. -/
def acceptChar (c : Char) : Parse Bool := do
  let next ← nextJoined
  if next = some c then
    return true
  else
    pushBack next
    return false

end RoutineTiming.Shell
