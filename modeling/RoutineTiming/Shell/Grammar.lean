import RoutineTiming.Shell.Lexer

/-!
# The grammar of the shell

Commands are read token by token. The commands inside others are read by the same rules, one level
deeper; there are no more levels than characters.

## Main definitions

* `Shell.readGoal` : one level of the grammar.
* `Shell.readCommands` : all levels.
* `Shell.readLine` : the commands on the next line of a script.
-/

namespace RoutineTiming.Shell

/-- The fault that a token stands where it cannot, or where another one is expected. -/
def unexpected {α : Type} (token : Token) (expected : Option Token := none) : Parse α :=
  match expected with
  | none => fail (token.name ++ " unexpected")
  | some wanted => fail (token.name ++ " unexpected (expecting " ++ wanted.name ++ ")")

/-- The next token is a given reserved word. -/
def expectReserved (read : Reader) (text : String) : Parse Unit := do
  let token ← readToken read
  if token.isReserved text then return ()
  else unexpected token (some (.reserved text))

/-- Commands inside another command. -/
def readBlock (read : Reader) : Parse Script := do
  return (← read .block).getD .nothing

/-! ### Redirections -/

/-- The redirection of a kind with the word behind it. -/
def readRedirection (read : Reader) (channel : Nat) (kind : String) : Parse Redirection := do
  let isDocument := kind = "<<" || kind = "<<-"
  if isDocument then setChecks { endMark := true }
  let token ← readToken read
  match token with
  | .word word isQuoted =>
    match kind with
    | "<" => return .open channel .read word
    | ">" => return .open channel .write word
    | ">|" => return .open channel .overwrite word
    | ">>" => return .open channel .append word
    | "<>" => return .open channel .readWrite word
    | "<&" => return .duplicate channel word
    | ">&" => return .duplicate channel word
    | _ =>
      let endMark := word.filterMap fun
        | .char c _ => some c
        | _ => none
      let number := (← get).documents.size
      let awaited : AwaitedDocument := ⟨number, endMark, decide (kind = "<<-"), !isQuoted⟩
      modify fun source =>
        { source with
          documents := source.documents.push { text := [], isExpanded := false }
          awaited := source.awaited ++ [awaited] }
      return .document channel number
  | token => unexpected token

/-- The redirections behind a command. -/
def readRedirections (read : Reader) : Parse (List Redirection) := do
  setChecks { reserved := true, aliases := true }
  iterateAll (fun taken : List Redirection => do
    match ← readToken read with
    | .redirection channel kind =>
      return .inl ((← readRedirection read channel kind) :: taken)
    | _ =>
      pushBackToken
      return .inr taken.reverse) []

/-! ### Simple commands -/

/-- The word assigns to a variable. -/
def isAssignment : Word → Bool
  | .char c false :: rest => isNameStart c && continues rest
  | _ => false
where
  continues : Word → Bool
    | .char '=' false :: _ => true
    | .char c false :: rest => isNameChar c && continues rest
    | _ => false

/-- The names of the builtins that belong to the language, which no function can have. -/
def specialBuiltins : List String :=
  [".", ":", "break", "continue", "eval", "exec", "exit", "export", "local", "readonly", "return",
    "set", "shift", "times", "trap", "unset"]

/-- What was read of a simple command, each list with the latest first. -/
structure SimpleDraft where
  assignments : List Word := []
  words : List Word := []
  redirections : List Redirection := []

/-- A function, from behind the parenthesis that follows its name. -/
def readFunction (read : Reader) (word : Word) : Parse Script := do
  let token ← readToken read
  match token with
  | .rightParen =>
    match plainText? word with
    | some name =>
      if !isName name ∨ specialBuiltins.contains name then fail "Bad function name"
      setChecks .command
      let body ← read .command
      return .define name (body.getD .nothing)
    | none => fail "Bad function name"
  | token => unexpected token (some .rightParen)

/-- A simple command or a function. -/
def readSimple (read : Reader) : Parse Script := do
  let line := (← get).line
  let step (draft : SimpleDraft) : Parse (SimpleDraft ⊕ Script) := do
    let inFront := draft.words.isEmpty
    setChecks { aliases := inFront }
    match ← readToken read, draft with
    | .word word _, draft =>
      if inFront ∧ isAssignment word then
        return .inl { draft with assignments := word :: draft.assignments }
      else return .inl { draft with words := word :: draft.words }
    | .redirection channel kind, draft =>
      let redirection ← readRedirection read channel kind
      return .inl { draft with redirections := redirection :: draft.redirections }
    | .leftParen, ⟨[], [word], []⟩ => return .inr (← readFunction read word)
    | _, draft =>
      pushBackToken
      return .inr (.simple line draft.assignments.reverse draft.words.reverse
        draft.redirections.reverse)
  iterateAll step {}

/-! ### Compound commands -/

/-- What follows the condition of a branch. -/
def readBranch (read : Reader) : Parse Script := do
  let arms ← iterateAll (fun taken : List (Script × Script) => do
    let condition ← readBlock read
    expectReserved read "then"
    let body ← readBlock read
    let taken := (condition, body) :: taken
    let token ← readToken read
    if token.isReserved "elif" then return .inl taken
    else if token.isReserved "else" then return .inr (taken, ← readBlock read)
    else
      pushBackToken
      return .inr (taken, Script.nothing)) []
  expectReserved read "fi"
  return arms.1.foldl (fun elseDo (condition, body) => .branch condition body elseDo) arms.2

/-- A loop with a condition, from behind its first word. -/
def readLoop (read : Reader) (whileSuccess : Bool) : Parse Script := do
  let condition ← readBlock read
  expectReserved read "do"
  let body ← readBlock read
  expectReserved read "done"
  return .loop whileSuccess condition body

/-- The words that a loop goes through, from behind `in`. -/
def readLoopWords (read : Reader) : Parse (List Word) :=
  iterateAll (fun taken : List Word => do
    let token ← readToken read
    match token with
    | .word word _ => return .inl (word :: taken)
    | .newline => return .inr taken.reverse
    | .semicolon => return .inr taken.reverse
    | token => unexpected token) []

/-- All arguments, each a word of its own. -/
def allArguments : Word := [.mark, .parameter "@" .plain [], .mark]

/-- A loop over words, from behind its first word. -/
def readEach (read : Reader) (line : Nat) : Parse Script := do
  match ← readToken read with
  | .word word false =>
    let name := (plainText? word).getD ""
    if !isName name then fail "Bad for loop variable"
    setChecks .command
    let token ← readToken read
    let words ←
      match token with
      | .reserved "in" => readLoopWords read
      | .semicolon => pure [allArguments]
      | _ =>
        pushBackToken
        pure [allArguments]
    setChecks .command
    expectReserved read "do"
    let body ← readBlock read
    expectReserved read "done"
    return .each line name words body
  | _ => fail "Bad for loop variable"

/-- The patterns of an arm, the first of which was read, and the parenthesis behind them. -/
def readPatterns (read : Reader) (first : Token) : Parse (List Word) :=
  iterateAll (fun (taken, pattern) => do
    let taken := pattern :: taken
    let token ← readToken read
    match token with
    | .bar => return .inl (taken, (← readToken read).asWord)
    | .rightParen => return .inr taken.reverse
    | token => unexpected token (some .rightParen)) (([] : List Word), first.asWord)

/-- The arms of a choice, up to its last word. -/
def readArms (read : Reader) : Parse (List (List Word × Script)) :=
  iterateAll (fun taken : List (List Word × Script) => do
    setChecks { newlines := true, reserved := true }
    let token ← readToken read
    if token.isReserved "esac" then return .inr taken.reverse
    else
      let first ←
        match token with
        | .leftParen => readToken read
        | token => pure token
      let patterns ← readPatterns read first
      let body := (← read .body).getD .nothing
      let taken := (patterns, body) :: taken
      setChecks { newlines := true, reserved := true }
      match ← readToken read with
      | .doubleSemicolon => return .inl taken
      | token =>
        if token.isReserved "esac" then return .inr taken.reverse
        else unexpected token (some .doubleSemicolon)) []

/-- A choice, from behind its first word. -/
def readChoice (read : Reader) (line : Nat) : Parse Script := do
  let token ← readToken read
  match token with
  | .word word _ =>
    setChecks .command
    expectReserved read "in"
    return .choose line word (← readArms read)
  | token => unexpected token (some (.word [] false))

/-- A subshell, from behind its parenthesis. -/
def readSubshell (read : Reader) (line : Nat) : Parse Script := do
  let body ← readBlock read
  let token ← readToken read
  match token with
  | .rightParen => return .subshell line body []
  | token => unexpected token (some .rightParen)

/-- A command with redirections behind it. -/
def Script.redirect (line : Nat) (command : Script) (redirections : List Redirection) : Script :=
  match command, redirections with
  | command, [] => command
  | .subshell line body _, redirections => .subshell line body redirections
  | command, redirections => .redirected line command redirections

/-- One command. -/
def readCommand (read : Reader) : Parse Script := do
  let line := (← get).line
  let token ← readToken read
  let compound (command : Parse Script) : Parse Script := do
    let command ← command
    return command.redirect line (← readRedirections read)
  match token with
  | .reserved "if" => compound (readBranch read)
  | .reserved "while" => compound (readLoop read true)
  | .reserved "until" => compound (readLoop read false)
  | .reserved "for" => compound (readEach read line)
  | .reserved "case" => compound (readChoice read line)
  | .reserved "\x7b" => compound do
    let body ← readBlock read
    expectReserved read "\x7d"
    return body
  | .leftParen => compound (readSubshell read line)
  | .word .. =>
    pushBackToken
    readSimple read
  | .redirection .. =>
    pushBackToken
    readSimple read
  | token => unexpected token

/-! ### Lists -/

/-- Commands joined by bars. -/
def readPipeline (read : Reader) : Parse Script := do
  let isNegated ← do
    let token ← readToken read
    if token.isReserved "!" then
      setChecks { reserved := true, aliases := true }
      pure true
    else
      pushBackToken
      pure false
  let first ← readCommand read
  let commands ← iterateAll (fun taken : List Script => do
    match ← readToken read with
    | .bar =>
      setChecks .command
      return .inl ((← readCommand read) :: taken)
    | _ =>
      pushBackToken
      return .inr taken.reverse) [first]
  let pipeline :=
    match commands with
    | [command] => command
    | commands => .pipeline commands false
  return if isNegated then .negated pipeline else pipeline

/-- Pipelines joined by what depends on their success. -/
def readChain (read : Reader) : Parse Script := do
  let first ← readPipeline read
  iterateAll (fun chain : Script => do
    match ← readToken read with
    | .doubleAmpersand =>
      setChecks .command
      return .inl (.ifSuccess chain (← readPipeline read))
    | .doubleBar =>
      setChecks .command
      return .inl (.ifFailure chain (← readPipeline read))
    | _ =>
      pushBackToken
      return .inr chain) first

/-- The command that runs in the background. -/
def Script.inBackground (line : Nat) : Script → Script
  | .pipeline commands _ => .pipeline commands true
  | .redirected line body redirections => .background line body redirections
  | command => .background line command []

/-- Commands one after the other. -/
def Script.followedBy (first : Option Script) (second : Script) : Script :=
  match first with
  | none => second
  | some first => .both first second

/-- The end of the file is to be read again. -/
def stopAtEnd (read : Reader) : Parse Unit := do
  readDocuments read
  modify fun source => { source with last := .endOfFile, isPushedBack := true }

/-- A list of commands. -/
def readList (read : Reader) (goal : Goal) : Parse (Option Script) := do
  let isLine := match goal with
    | .line => true
    | _ => false
  let mayBeEmpty := match goal with
    | .body => true
    | _ => false
  iterateAll (fun ((script, mayEnd) : Option Script × Bool) => do
    setChecks { Checks.command with newlines := !isLine }
    match ← readToken read with
    | .newline =>
      readDocuments read
      return .inr (some (script.getD .nothing))
    | .endOfFile =>
      stopAtEnd read
      return .inr (if isLine then script else some (script.getD .nothing))
    | token =>
      pushBackToken
      if mayEnd ∧ token.endsList then return .inr (some (script.getD .nothing))
      let command ← readChain read
      let line := (← get).line
      let separator ← readToken read
      match separator with
      | .ampersand =>
        return .inl (some (Script.followedBy script (command.inBackground line)), !isLine)
      | .semicolon => return .inl (some (Script.followedBy script command), !isLine)
      | .newline =>
        pushBackToken
        return .inl (some (Script.followedBy script command), !isLine)
      | .endOfFile =>
        stopAtEnd read
        return .inr (some (Script.followedBy script command))
      | separator =>
        if isLine then unexpected separator
        else
          pushBackToken
          return .inr (some (Script.followedBy script command)))
    (none, mayBeEmpty)

/-- One level of the grammar, where the levels below are read as given. -/
def readGoal (read : Reader) (goal : Goal) : Parse (Option Script) :=
  match goal with
  | .command => return some (← readCommand read)
  | goal => readList read goal

/-- The grammar down to a level. -/
def readCommands : (levels : Nat) → Reader
  | 0, _ => fail "input too deep"
  | levels + 1, goal => readGoal (readCommands levels) goal

/-- The commands on the next line of a script, and what is left of it; there are no commands at the
end of the script. -/
def readLine (source : Source) : Except SyntaxFault (Option Script × Source) :=
  let start := { source with isPushedBack := false, checks := {}, awaited := [] }
  (readCommands source.bound .line).run start

/-- The document that a text is in which everything is expanded. -/
def readExpanded (text : String) : Except SyntaxFault Document := do
  let source := Source.ofText text.toList
  let quoting : Quoting := { table := .double, isDouble := true }
  let whole : AwaitedDocument :=
    { number := 0, endMark := ['\x00'], dropsTabs := false, isExpanded := true }
  let ((draft, _), _) ←
    (readDraft (readCommands source.bound) { quoting, document := some whole }).run source
  return ⟨draft.word, true⟩

end RoutineTiming.Shell
