import RoutineTiming.Shell.Source

/-!
# Words while they are read

A word is read character by character. What a character means depends on the quotes and expansions
that are open around it. Each expansion in braces and each arithmetic expression that is open holds
the parts in front of it, until its end makes it a part itself.

## Main definitions

* `Shell.Role` : what a character means in a table of meanings.
* `Shell.Quoting` : the state of quotes inside one expansion.
* `Shell.Draft` : a word as far as it was read.
-/

namespace RoutineTiming.Shell

/-- A table of meanings of characters. -/
inductive RoleTable where
  | plain
  | double
  | single
  | arithmetic
  deriving DecidableEq

/-- What a character means. -/
inductive Role where
  | newline
  | ordinary
  /-- An ordinary character that would have a meaning without the quotes around it. -/
  | guarded
  | backslash
  | singleQuote
  | doubleQuote
  | endQuote
  | backquote
  | dollar
  | closeBrace
  | openParen
  | closeParen
  /-- A character that ends a word. -/
  | ending

/-- The characters whose meaning is taken away by quotes. -/
def guardedChars : List Char := ['!', '*', '?', '[', ']', '=', '~', ':', '/', '-']

/-- The characters that end a word. -/
def endingChars : List Char := ['<', '>', '(', ')', ';', '&', '|', ' ', '\t']

/-- The meaning of a character outside single quotes, if it has the same in all tables. -/
def commonRole? (c : Char) : Option Role :=
  match c with
  | '\\' => some .backslash
  | '`' => some .backquote
  | '$' => some .dollar
  | '\x7d' => some .closeBrace
  | _ => none

/-- The meaning of a character in a table. -/
def roleIn (table : RoleTable) (c : Char) : Role :=
  if c = '\n' then .newline
  else
    match table with
    | .single =>
      if c = '\'' then .endQuote
      else if c = '\\' ∨ guardedChars.contains c then .guarded
      else .ordinary
    | .plain =>
      if c = '\'' then .singleQuote
      else if c = '"' then .doubleQuote
      else if endingChars.contains c then .ending
      else (commonRole? c).getD .ordinary
    | .double =>
      if c = '"' then .endQuote
      else if guardedChars.contains c then .guarded
      else (commonRole? c).getD .ordinary
    | .arithmetic =>
      if c = '(' then .openParen
      else if c = ')' then .closeParen
      else (commonRole? c).getD .ordinary

/-- The state of quotes inside one expansion. -/
structure Quoting where
  table : RoleTable
  isDouble : Bool := false
  /-- Double quotes are open that began inside braces. -/
  isInnerDouble : Bool := false
  /-- The state began with braces, and ends with them. -/
  endsWithBraces : Bool := false
  /-- How many braces are open. -/
  braces : Nat := 0
  /-- How many of them were opened inside double quotes. -/
  doubleBraces : Nat := 0
  /-- How many parentheses are open. -/
  parens : Nat := 0

/-- An expansion that is open. -/
inductive Construct where
  | braces (name : String) (change : Change)
  | arithmetic

/-- The part that an expansion is with what is inside it. -/
def Construct.part (construct : Construct) (inside : List Part) : Part :=
  match construct with
  | .braces name change => .parameter name change inside
  | .arithmetic => .arithmetic inside

/-- A word as far as it was read. -/
structure Draft where
  quoting : Quoting
  /-- The states of quotes around that one. -/
  outer : List Quoting := []
  /-- The parts of the innermost expansion that is open, the latest first. -/
  parts : List Part := []
  /-- The expansions that are open, each with the parts in front of it. -/
  openConstructs : List (Construct × List Part) := []
  isQuoted : Bool := false
  /-- The mark and the handling of tabs, if the draft is that of a document. -/
  document : Option AwaitedDocument := none
  /-- The word is the end mark of a document, in which nothing is expanded. -/
  isEndMark : Bool := false

namespace Draft

/-- The draft with one more part. -/
def add (draft : Draft) (part : Part) : Draft := { draft with parts := part :: draft.parts }

/-- The draft with one more character. -/
def addChar (draft : Draft) (c : Char) (isQuoted : Bool := false) : Draft :=
  draft.add (.char c isQuoted)

/-- The draft with a mark of quotes; documents have none. -/
def addMark (draft : Draft) : Draft :=
  if draft.document.isSome then draft else draft.add .mark

/-- The draft with an expansion begun. -/
def begin (draft : Draft) (construct : Construct) : Draft :=
  { draft with
    openConstructs := (construct, draft.parts) :: draft.openConstructs, parts := [] }

/-- The draft with the innermost expansion ended. -/
def finish (draft : Draft) : Draft :=
  match draft.openConstructs with
  | (construct, before) :: rest =>
    { draft with parts := construct.part draft.parts.reverse :: before, openConstructs := rest }
  | [] => draft

/-- The draft with another state of quotes. -/
def setQuoting (draft : Draft) (quoting : Quoting) : Draft := { draft with quoting }

/-- The draft with a new state of quotes inside the others. -/
def push (draft : Draft) (quoting : Quoting) : Draft :=
  { draft with quoting, outer := draft.quoting :: draft.outer }

/-- The draft with the innermost state of quotes ended. -/
def pop (draft : Draft) : Draft :=
  match draft.outer with
  | quoting :: outer => { draft with quoting, outer }
  | [] => draft

/-- The word that was read. -/
def word (draft : Draft) : Word := draft.parts.reverse

/-! ### Quotes -/

/-- The draft with the kind of double quotes changed, if they stand inside braces. -/
def toggleInner (draft : Draft) : Draft :=
  if draft.quoting.braces = 0 then draft
  else draft.setQuoting { draft.quoting with isInnerDouble := !draft.quoting.isInnerDouble }

/-- The draft behind a single quote that opens. -/
def openSingle (draft : Draft) : Draft :=
  (draft.setQuoting { draft.quoting with table := .single }).addMark

/-- The draft behind a double quote that opens. -/
def openDouble (draft : Draft) : Draft :=
  (draft.setQuoting { draft.quoting with table := .double, isDouble := true }).toggleInner.addMark

/-- The draft behind a quote that closes. In a document outside of braces it is a character as any
other. -/
def closeQuote (draft : Draft) (c : Char) : Draft :=
  if draft.document.isSome ∧ draft.quoting.braces = 0 then draft.addChar c
  else
    let closed :=
      if draft.quoting.doubleBraces = 0 then
        draft.setQuoting { draft.quoting with table := .plain, isDouble := false }
      else draft
    let closed := { closed with isQuoted := true }
    (if c = '"' then closed.toggleInner else closed).addMark

/-- The draft behind a backslash and a character. Inside double quotes the backslash remains unless
the character would have a meaning there. -/
def escape (draft : Draft) (c : Char) : Draft :=
  let quoting := draft.quoting
  let remains :=
    quoting.isDouble && c ≠ '\\' && c ≠ '`' && c ≠ '$' &&
      (c ≠ '"' || (draft.document.isSome && quoting.braces = 0)) &&
      (c ≠ '\x7d' || quoting.braces = 0)
  let draft := if remains then draft.addChar '\\' true else draft
  { draft.addChar c true with isQuoted := true }

/-! ### Expansions -/

/-- The draft behind the beginning of an expansion in braces. Patterns have quotes of their own;
so does what stands in an arithmetic expression. -/
def openBraces (draft : Draft) (name : String) (change : Change) (isPattern : Bool) : Draft :=
  let quoting := draft.quoting
  let table :=
    if isPattern then RoleTable.plain
    else if quoting.table = .arithmetic then .double
    else quoting.table
  let draft := draft.begin (.braces name change)
  let draft :=
    if table ≠ quoting.table ∨ quoting.isInnerDouble then
      draft.push { table, isDouble := decide (table ≠ RoleTable.plain), endsWithBraces := true }
    else draft
  let quoting := draft.quoting
  draft.setQuoting
    { quoting with
      braces := quoting.braces + 1
      doubleBraces := quoting.doubleBraces + if quoting.isDouble then 1 else 0 }

/-- The draft behind a closing brace, which is a character as any other if none is open. -/
def closeBraces (draft : Draft) : Draft :=
  let quoting := draft.quoting
  if quoting.isInnerDouble ∨ quoting.braces = 0 then draft.addChar '\x7d'
  else
    let draft := draft.setQuoting { quoting with braces := quoting.braces - 1 }
    if quoting.braces = 1 ∧ quoting.endsWithBraces then draft.pop.finish
    else
      (draft.setQuoting
        { draft.quoting with doubleBraces := quoting.doubleBraces - 1 }).finish

/-- The draft behind the beginning of an arithmetic expression. -/
def openArithmetic (draft : Draft) : Draft :=
  (draft.begin .arithmetic).push { table := .arithmetic, isDouble := true }

/-- The draft behind the end of an arithmetic expression. -/
def closeArithmetic (draft : Draft) : Draft := draft.pop.finish

/-- The draft with the number of open parentheses changed. -/
def setParens (draft : Draft) (parens : Nat) : Draft :=
  draft.setQuoting { draft.quoting with parens }

/-- What is wrong with a word that ends here. -/
def fault? (draft : Draft) : Option String :=
  if draft.quoting.table = .arithmetic then some "Missing '))'"
  else if draft.quoting.table ≠ .plain ∧ draft.document.isNone then
    some "Unterminated quoted string"
  else if draft.quoting.braces ≠ 0 then some "Missing '\x7d'"
  else none

end Draft

end RoutineTiming.Shell
