import RoutineTiming.Shell.State

/-!
# Conditions

A condition is a list of words: tests of texts, numbers and files, joined by connectives and grouped
by parentheses. Whether a word is an operator depends on the words behind it.

## Main definitions

* `Shell.Condition.Token` : what a word means at its place.
* `Shell.Condition.read` : the truth of a condition, at one of the levels of its grammar.
* `Shell.condition` : the truth of the words of a condition.
-/

namespace RoutineTiming.Shell

namespace Condition

/-! ### Words -/

/-- The operators in front of one word. -/
def unaryOperators : List String :=
  ["-r", "-w", "-x", "-e", "-f", "-d", "-c", "-b", "-p", "-u", "-g", "-k", "-s", "-t", "-z", "-n",
    "-h", "-O", "-G", "-L", "-S"]

/-- The operators between two words. -/
def binaryOperators : List String :=
  ["=", "!=", "<", ">", "-eq", "-ge", "-gt", "-le", "-lt", "-ne", "-nt", "-ot", "-ef"]

/-- What a word means at its place. -/
inductive Token where
  | stop
  | operand
  | unary (operator : String)
  | binary (operator : String)
  | negation
  | conjunction
  | disjunction
  | leftParen
  | rightParen
  deriving DecidableEq

/-- What a word can mean. -/
def tokenOf (word : String) : Token :=
  match word with
  | "!" => .negation
  | "-a" => .conjunction
  | "-o" => .disjunction
  | "(" => .leftParen
  | ")" => .rightParen
  | word =>
    if unaryOperators.contains word then .unary word
    else if binaryOperators.contains word then .binary word
    else .operand

/-- The word is an operator between two others. -/
def isBinary (word : String) : Bool := binaryOperators.contains word

/-- What the first of some words means. An operator in front of nothing, or of an operator that has
words on both sides, is a word like others. -/
def firstToken : List String → Token
  | [] => .stop
  | word :: rest =>
    match tokenOf word, rest with
    | .unary _, [] => .operand
    | .unary operator, next :: _ :: _ => if isBinary next then .operand else .unary operator
    | .leftParen, [] => .operand
    | token, _ => token

/-! ### Tests -/

/-- A number in a condition. -/
def wholeOf (text : String) : Run Int := do
  match readWhole? text with
  | some n => return n
  | none => badNumber text

/-- What a path leads to. -/
def nodeOf (state : State) (path : String) : Option (Place × Node) :=
  match state.world.files.resolveFrom state.process.directory path with
  | .ok found => some found
  | .error _ => none

/-- What is at a path passes a test. -/
def pathPasses (state : State) (path : String) (test : Node → Bool) : Bool :=
  match nodeOf state path with
  | some (_, node) => test node
  | none => false

/-- The truth of an operator in front of a word. -/
def unaryTruth (operator word : String) : Run Bool := do
  let state ← get
  match operator with
  | "-z" => return word = ""
  | "-n" => return word ≠ ""
  | "-t" =>
    let _ ← wholeOf word
    return false
  | operator =>
    return pathPasses state word fun node =>
      match operator, node with
      | "-f", .file .. => true
      | "-d", .directory => true
      | "-c", .device _ => true
      | "-s", .file bytes _ => !bytes.isEmpty
      | "-s", .directory => true
      | "-x", .directory => true
      | "-x", .file _ isExecutable => isExecutable
      | operator, _ => ["-e", "-r", "-w", "-O", "-G"].contains operator

/-- The truth of an operator between two words. -/
def binaryTruth (a operator b : String) : Run Bool := do
  let compare (relation : Int → Int → Bool) : Run Bool := do
    let first ← wholeOf a
    let second ← wholeOf b
    return relation first second
  match operator with
  | "=" => return a = b
  | "!=" => return a ≠ b
  | "<" => return a < b
  | ">" => return b < a
  | "-eq" => compare fun x y => x = y
  | "-ne" => compare fun x y => x ≠ y
  | "-lt" => compare fun x y => x < y
  | "-le" => compare fun x y => x ≤ y
  | "-gt" => compare fun x y => y < x
  | "-ge" => compare fun x y => y ≤ x
  | "-ef" =>
    let state ← get
    return match nodeOf state a, nodeOf state b with
      | some (p, _), some (q, _) => p = q
      | _, _ => false
  | _ => return false

/-! ### Grammar -/

/-- The levels of the grammar, from the loosest on. -/
inductive Level where
  | alternatives
  | conjuncts
  | negations
  | single

/-- The reading of a condition; its state is the words from the one at hand on. -/
abbrev Reading := StateT (List String) Run

/-- The words from the one at hand on move by some words. -/
def advance (count : Nat) : Reading Unit := modify fun words => words.drop count

/-- What the word means that stands some words behind the one at hand. -/
def tokenBehind (count : Nat) : Reading Token := do return firstToken ((← get).drop count)

/-- The complaint about an operator that lacks a word. -/
def lacksOperand {α : Type} (operator : String) : Reading α :=
  fault (operator ++ ": argument expected")

/-- One level of the grammar, where the level below is read as given. The word at hand is the last
one of what was read. -/
def readLevel (read : Level → Token → Reading Bool) : Level → Token → Reading Bool
  | .alternatives, token => do
    let value ← read .conjuncts token
    if (← tokenBehind 1) = .disjunction then
      advance 2
      let more ← read .alternatives (← tokenBehind 0)
      return value || more
    else return value
  | .conjuncts, token => do
    let value ← read .negations token
    if (← tokenBehind 1) = .conjunction then
      advance 2
      let more ← read .conjuncts (← tokenBehind 0)
      return value && more
    else return value
  | .negations, .negation => do
    let next ← tokenBehind 1
    if next ≠ .stop then advance 1
    return !(← read .negations next)
  | .negations, token => read .single token
  | .single, .stop => return false
  | .single, .leftParen => do
    advance 1
    let next ← tokenBehind 0
    if next = .rightParen then return false
    let value ← read .alternatives next
    advance 1
    if (← tokenBehind 0) ≠ .rightParen then fault "closing paren expected"
    return value
  | .single, .unary operator => do
    advance 1
    match ← get with
    | word :: _ => unaryTruth operator word
    | [] => lacksOperand operator
  | .single, _ => do
    match ← get, ← tokenBehind 1 with
    | a :: operator :: rest, .binary _ =>
      advance 2
      match rest with
      | b :: _ => binaryTruth a operator b
      | [] => lacksOperand operator
    | word :: _, _ => return word ≠ ""
    | [], _ => return false

/-- The truth of what begins with a token, in at most a number of levels. -/
def read : (levels : Nat) → Level → Token → Reading Bool
  | 0, _, _ => fault "closing paren expected"
  | levels + 1, level, token => readLevel (read levels) level token

/-- The truth of words whose first one means a token. -/
def truth (words : List String) (token : Token) : Run Bool := do
  let (value, rest) ← (read (4 * words.length + 4) .alternatives token).run words
  match rest with
  | word :: _ :: _ => fault ((if word = "" then "" else word ++ ": ") ++ "unexpected operator")
  | _ => return value

/-- The words are one in front of an operator and one behind it. -/
def isComparison : List String → Bool
  | [_, operator, _] => isBinary operator
  | _ => false

/-- The words inside parentheses. -/
def grouped? : List String → Option (List String)
  | "(" :: rest => if rest.getLast? = some ")" then some rest.dropLast else none
  | _ => none

end Condition

/-- The status of a condition. Three or four words have a meaning of their own, where negation
counts once. -/
def condition (isNegated : Bool) (words : List String) : Run Nat := do
  let status (value : Bool) : Nat := if value != isNegated then 0 else 1
  match words with
  | [] => return status false
  | word :: rest =>
    let isShort := words.length = 3 ∨ words.length = 4
    if Condition.isComparison words then
      return status (← Condition.truth words .operand)
    else
      match if isShort then Condition.grouped? words else none with
      | some inner => return status (← Condition.truth inner (Condition.firstToken inner))
      | none =>
        if isShort ∧ word = "!" then condition true rest
        else return status (← Condition.truth words (Condition.firstToken words))

/-- The builtin `test`. -/
def runTest (words : List String) : Run Nat := condition false words

/-- The builtin `[`, whose last word closes it by its first character. -/
def runBracket (words : List String) : Run Nat :=
  let isClosed := words.getLast?.any fun word => word.toList.head? = some ']'
  if isClosed then condition false words.dropLast else fault "missing ]"

end RoutineTiming.Shell
