import RoutineTiming.Shell.Draft

/-!
# The tokens of a script

Tokens are read from the source of a script. Since a word may hold commands, whose output stands in
its place, the reading of tokens depends on a way to read commands, which is a parameter here.

## Main definitions

* `Shell.Goal`, `Shell.Reader` : what commands can be read.
* `Shell.readWord` : a word, or the text of a document.
* `Shell.readToken` : the next token, with the checks that are in force.
-/

namespace RoutineTiming.Shell

/-- What is to be read of commands. -/
inductive Goal where
  /-- The commands on a line. -/
  | line
  /-- At least one command, up to a token that ends a list. -/
  | block
  /-- Any number of commands, up to a token that ends a list. -/
  | body
  /-- One command. -/
  | command

/-- A way to read commands; there are none if the text is over. -/
abbrev Reader := Goal → Parse (Option Script)

/-- The character is the name of a special parameter. -/
def isSpecialName (c : Char) : Bool := ['*', '@', '#', '?', '-', '$', '!'].contains c

/-! ### Expansions -/

/-- The next characters as long as they satisfy a test, and the character behind them. -/
def readWhile (accepts : Char → Bool) : Parse (String × Option Char) :=
  iterateAll (fun taken : List Char => do
    match ← nextJoined with
    | some c =>
      if accepts c then return .inl (c :: taken)
      else return .inr (String.ofList taken.reverse, some c)
    | none => return .inr (String.ofList taken.reverse, none)) []

/-- The text of commands between backquotes, where a backslash guards some characters. -/
def readBackquoted (isDouble : Bool) : Parse (List Char) :=
  iterateAll (fun taken : List Char => do
    match ← nextJoined with
    | some '`' => return .inr taken.reverse
    | some '\\' =>
      match ← nextChar with
      | some c =>
        if c = '\\' ∨ c = '`' ∨ c = '$' ∨ (isDouble ∧ c = '"') then return .inl (c :: taken)
        else
          pushBack (some c)
          return .inl ('\\' :: taken)
      | none => return .inl ('\\' :: taken)
    | some '\n' =>
      countLine
      return .inl ('\n' :: taken)
    | some c => return .inl (c :: taken)
    | none => fail "EOF in backquote substitution") []

/-- The commands of a text of its own. -/
def readInner (read : Reader) (text : List Char) : Parse Script := do
  let outer ← get
  set (Source.ofText text outer.aliases outer.documents)
  let script ← read .body
  let inner ← get
  set { outer with documents := inner.documents }
  return script.getD .nothing

/-- The commands between parentheses, from behind the first of them. -/
def readParenthesized (read : Reader) : Parse Script := do
  let outer ← get
  set { outer with awaited := [], isPushedBack := false, checks := {} }
  let script ← read .body
  let source ← get
  match source.last with
  | .rightParen =>
    set { source with awaited := outer.awaited, isPushedBack := false, checks := {} }
    return script.getD .nothing
  | token => fail (token.name ++ " unexpected (expecting \")\")")

/-- What an expansion in braces does, by the character behind the name and those behind that, and
whether the braces end at once. -/
def readChange (c : Option Char) : Parse (Change × Bool × Bool) := do
  let named (emptyCounts : Bool) (c : Option Char) : Change :=
    match c with
    | some '-' => .fallback emptyCounts
    | some '=' => .assign emptyCounts
    | some '?' => .complain emptyCounts
    | some '+' => .alternative emptyCounts
    | _ => .unknown
  match c with
  | some '\x7d' => return (.plain, false, true)
  | some ':' => return (named true (← nextJoined), false, false)
  | some '%' => return (.trim true (← acceptChar '%'), true, false)
  | some '#' => return (.trim false (← acceptChar '#'), true, false)
  | c => return (named false c, false, false)

/-- The draft behind the name of an expansion in braces, and the character behind the name. -/
def readBracesFrom (draft : Draft) (name : String) (c : Option Char) : Parse Draft := do
  let (change, isPattern, isClosed) ← readChange c
  if isClosed then return draft.add (.parameter name .plain [])
  else return draft.openBraces name change isPattern

/-- The draft behind the beginning of an expansion that is none. -/
def readBadBraces (draft : Draft) (c : Option Char) : Parse Draft := do
  pushBack c
  return draft.openBraces "" .unknown false

/-- The draft behind the name of a parameter whose length is asked for. -/
def readLengthOf (draft : Draft) (name : String) (c : Option Char) : Parse Draft := do
  pushBack c
  let change := if c = some '\x7d' then Change.length else .unknown
  return draft.openBraces name change false

/-- The draft behind a number sign in braces: it asks for the length of what follows, or is itself
the parameter. -/
def readNumberSign (draft : Draft) (c : Option Char) : Parse Draft := do
  match c with
  | some d =>
    if isNameStart d then
      let (more, c) ← readWhile isNameChar
      readLengthOf draft (String.singleton d ++ more) c
    else if d.isDigit then
      let (more, c) ← readWhile Char.isDigit
      readLengthOf draft (String.singleton d ++ more) c
    else
      let next ← nextJoined
      if d = '\x7d' ∨ next ≠ some '\x7d' then
        pushBack next
        readBracesFrom draft "#" (some d)
      else if isSpecialName d then readLengthOf draft (String.singleton d) next
      else readBadBraces draft next
  | none => readBracesFrom draft "#" none

/-- The draft behind an expansion in braces, or behind its beginning. -/
def readBraces (draft : Draft) : Parse Draft := do
  match ← nextJoined with
  | some c =>
    if isNameStart c then
      let (more, next) ← readWhile isNameChar
      readBracesFrom draft (String.singleton c ++ more) next
    else if c.isDigit then
      let (more, next) ← readWhile Char.isDigit
      readBracesFrom draft (String.singleton c ++ more) next
    else if c = '\x7d' then readBadBraces draft (some c)
    else if c = '#' then readNumberSign draft (← nextJoined)
    else
      let next ← nextJoined
      if isSpecialName c then readBracesFrom draft (String.singleton c) next
      else readBadBraces draft next
  | none => readBadBraces draft none

/-- The draft behind a dollar sign and what belongs to it. -/
def readDollar (read : Reader) (draft : Draft) : Parse Draft := do
  let plain (c : Option Char) : Parse Draft := do
    pushBack c
    return draft.addChar '$'
  match ← nextJoined with
  | some c =>
    if draft.isEndMark then plain (some c)
    else if c = '(' then
      if ← acceptChar '(' then return draft.openArithmetic
      else return draft.add (.output (← readParenthesized read))
    else if c = '\x7b' then readBraces draft
    else if isNameStart c then
      let (more, next) ← readWhile isNameChar
      pushBack next
      return draft.add (.parameter (String.singleton c ++ more) .plain [])
    else if c.isDigit ∨ isSpecialName c then
      return draft.add (.parameter (String.singleton c) .plain [])
    else plain (some c)
  | none => plain none

/-! ### Words -/

/-- The text behind the end mark of a document, which stands at the beginning of a text. -/
def behindMark? : List Char → List Char → Option (List Char)
  | [], [] => some []
  | [], '\n' :: rest => some rest
  | c :: mark, d :: rest => if c = d then behindMark? mark rest else none
  | _, _ => none

/-- How a line begins. -/
inductive LineStart where
  /-- The line ends the document that is being read. -/
  | endMark
  /-- Tabs in front of the line were dropped. -/
  | behindTabs
  | plain
  deriving DecidableEq

/-- The beginning of a line. In a document it may stand behind joined lines, unless these mean
nothing in it. -/
def readLineStart (draft : Draft) : Parse LineStart := do
  match draft.document with
  | none => return .plain
  | some document =>
    if draft.quoting.table ≠ .single then passJoins
    let source ← get
    let text := if document.dropsTabs then source.rest.dropWhile (· = '\t') else source.rest
    match behindMark? document.endMark text with
    | some rest =>
      set { source with rest, line := source.line + 1 }
      return .endMark
    | none =>
      set { source with rest := text }
      return if document.dropsTabs ∧ source.rest.head? = some '\t' then .behindTabs else .plain

/-- The draft behind a closing parenthesis in an arithmetic expression. -/
def readCloseParen (draft : Draft) : Parse Draft := do
  if 0 < draft.quoting.parens then
    return (draft.addChar ')').setParens (draft.quoting.parens - 1)
  else if ← acceptChar ')' then return draft.closeArithmetic
  else return draft.addChar ')'

/-- The draft behind a character and what belongs to it, or the end of the word. -/
def readPart (read : Reader) (draft : Draft) (c : Char) : Parse (Draft ⊕ Unit) := do
  match roleIn draft.quoting.table c with
  | .newline =>
    if draft.quoting.table = .plain ∧ draft.quoting.braces = 0 then return .inr ()
    else
      countLine
      return .inl (draft.addChar c)
  | .ordinary => return .inl (draft.addChar c)
  | .guarded => return .inl (draft.addChar c true)
  | .backslash =>
    match ← nextChar with
    | some d => return .inl (draft.escape d)
    | none => return .inl (draft.addChar '\\' true)
  | .singleQuote => return .inl draft.openSingle
  | .doubleQuote => return .inl draft.openDouble
  | .endQuote => return .inl (draft.closeQuote c)
  | .backquote =>
    if draft.isEndMark then return .inl (draft.addChar c)
    else
      let text ← readBackquoted draft.quoting.isDouble
      return .inl (draft.add (.output (← readInner read text)))
  | .dollar => return .inl (← readDollar read draft)
  | .closeBrace => return .inl draft.closeBraces
  | .openParen => return .inl ((draft.addChar c).setParens (draft.quoting.parens + 1))
  | .closeParen => return .inl (← readCloseParen draft)
  | .ending =>
    if draft.quoting.braces = 0 then return .inr () else return .inl (draft.addChar c)

/-- The next character of a draft, which may be behind joined lines, though not behind tabs that
were dropped. -/
def nextOf (draft : Draft) (start : LineStart) : Parse (Option Char) :=
  if start = .behindTabs ∨ draft.quoting.table = .single then nextChar else nextJoined

/-- The draft up to its end, and the character behind it. -/
def readDraft (read : Reader) (start : Draft) : Parse (Draft × Option Char) := do
  let step (state : Draft × Bool) : Parse ((Draft × Bool) ⊕ (Draft × Option Char)) := do
    let (draft, startsLine) := state
    let start ← if startsLine then readLineStart draft else pure LineStart.plain
    if start = .endMark then return .inr (draft, none)
    match ← nextOf draft start with
    | none => return .inr (draft, none)
    | some c =>
      match ← readPart read draft c with
      | .inl draft => return .inl (draft, decide (c = '\n'))
      | .inr () => return .inr (draft, some c)
  let (draft, c) ← iterateAll step (start, true)
  match draft.fault? with
  | some text => fail text
  | none => return (draft, c)

/-- The documents that the lines behind a command hold. -/
def readDocuments (read : Reader) : Parse Unit := do
  let awaited := (← get).awaited
  modify fun source => { source with awaited := [] }
  awaited.forM fun document => do
    let quoting : Quoting :=
      if document.isExpanded then { table := .double, isDouble := true } else { table := .single }
    let (draft, _) ← readDraft read { quoting, document := some document }
    modify fun source =>
      { source with
        documents := source.documents.setIfInBounds document.number
          ⟨draft.word, document.isExpanded⟩ }

/-! ### Tokens -/

/-- The kind of a redirection, from behind its first character. -/
def readRedirectionKind (first : Char) : Parse String := do
  if first = '>' then
    if ← acceptChar '>' then return ">>"
    else if ← acceptChar '|' then return ">|"
    else if ← acceptChar '&' then return ">&"
    else return ">"
  else if ← acceptChar '<' then
    if ← acceptChar '-' then return "<<-" else return "<<"
  else if ← acceptChar '&' then return "<&"
  else if ← acceptChar '>' then return "<>"
  else return "<"

/-- A word, or a redirection, which may have a digit in front. -/
def readWord (read : Reader) (isEndMark : Bool) : Parse Token := do
  let (draft, c) ← readDraft read { quoting := { table := .plain }, isEndMark }
  let channel? : Option (Option Nat) :=
    match draft.word, draft.isQuoted with
    | [], false => some none
    | [.char d false], false => if d.isDigit then some (some (d.toNat - '0'.toNat)) else none
    | _, _ => none
  match c, channel? with
  | some '>', some channel => return .redirection (channel.getD 1) (← readRedirectionKind '>')
  | some '<', some channel => return .redirection (channel.getD 0) (← readRedirectionKind '<')
  | c, _ =>
    pushBack c
    return .word draft.word draft.isQuoted

/-- The text behind blanks, joined lines and a comment, and how many lines were joined. -/
def skipGap (inComment : Bool) (joined : Nat) : List Char → List Char × Nat
  | [] => ([], joined)
  | '\n' :: rest => ('\n' :: rest, joined)
  | '\\' :: '\n' :: rest =>
    if inComment then ('\n' :: rest, joined) else skipGap false (joined + 1) rest
  | c :: rest =>
    if inComment then skipGap true joined rest
    else if c = ' ' ∨ c = '\t' then skipGap false joined rest
    else if c = '#' then skipGap true joined rest
    else (c :: rest, joined)

/-- The next token as it stands in the text. -/
def readRawToken (read : Reader) : Parse Token := do
  let source ← get
  if source.isPushedBack then
    set { source with isPushedBack := false }
    return source.last
  let (rest, joined) := skipGap false 0 source.rest
  set { source with rest, line := source.line + joined }
  match ← nextJoined with
  | none => return .endOfFile
  | some '\n' =>
    countLine
    return .newline
  | some '&' => if ← acceptChar '&' then return .doubleAmpersand else return .ampersand
  | some '|' => if ← acceptChar '|' then return .doubleBar else return .bar
  | some ';' => if ← acceptChar ';' then return .doubleSemicolon else return .semicolon
  | some '(' => return .leftParen
  | some ')' => return .rightParen
  | c =>
    pushBack c
    readWord read source.checks.endMark

/-- The alias that a word names, unless its text is being read. -/
def openAlias? (source : Source) (name : String) : Option String :=
  let behind := source.rest.length
  if source.openAliases.any fun a => a.name = name ∧ a.behind ≤ behind then none
  else source.aliases.lookup name

/-- The text of an alias is read next. -/
def insertAlias (name text : String) : Parse Unit :=
  modify fun source =>
    let endsBlank :=
      match text.toList.getLast? with
      | some c => c = ' ' || c = '\t'
      | none => false
    { source with
      rest := text.toList ++ source.rest
      openAliases :=
        if text = "" then source.openAliases
        else ⟨name, source.rest.length, endsBlank⟩ :: source.openAliases }

/-- The text of an alias that ends with a blank was left when a token was read. -/
def leftBlankAlias (before : Nat) : Parse Bool := do
  let source ← get
  if source.openAliases.isEmpty then return false
  else
    let after := source.rest.length
    return source.openAliases.any fun a => a.endsBlank && a.behind < before && after ≤ a.behind

/-- A word as the token that it is in the grammar: a reserved word, or a word. The result is none if
the word is an alias, whose text is read next. -/
def resolveWord (checks : Checks) (token : Token) : Parse (Option Token) := do
  match token with
  | .word word false =>
    match plainText? word with
    | some text =>
      if checks.reserved ∧ reservedWords.contains text then return some (.reserved text)
      else if checks.aliases then
        match openAlias? (← get) text with
        | some value =>
          insertAlias text value
          return none
        | none => return some token
      else return some token
    | none => return some token
  | token => return some token

/-- The next token behind the ends of lines, if they are passed over. -/
def readBehindNewlines (read : Reader) (newlines : Bool) : Parse Token :=
  iterateAll (fun _ : Unit => do
    match ← readRawToken read, newlines with
    | .newline, true =>
      readDocuments read
      modify fun source => { source with checks := {} }
      return .inl ()
    | token, _ => return .inr token) ()

/-- The next token, with the checks that are in force. They are in force only once. -/
def readToken (read : Reader) : Parse Token := do
  let checks := (← get).checks
  let token ← iterateAll (fun checks : Checks => do
    let source ← get
    let before := if source.openAliases.isEmpty then 0 else source.rest.length
    let token ← readBehindNewlines read checks.newlines
    let looksUp ← leftBlankAlias before
    let checks := if looksUp then { checks with aliases := true } else checks
    modify fun source => { source with checks := {} }
    match ← resolveWord checks token with
    | some token => return .inr token
    | none => return .inl checks) checks
  modify fun source => { source with last := token }
  return token

/-- The last token is to be read again. -/
def pushBackToken : Parse Unit := modify fun source => { source with isPushedBack := true }

/-- The checks for the next token. -/
def setChecks (checks : Checks) : Parse Unit := modify fun source => { source with checks }

end RoutineTiming.Shell
