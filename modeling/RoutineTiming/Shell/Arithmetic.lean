import RoutineTiming.Shell.Variables
import RoutineTiming.Text.Radix

/-!
# Arithmetic of the shell

Expressions over whole numbers of 64 bits with sign. A name stands for the number in the variable of
that name, which an expression can change. An operand that does not count, such as the second one of
a disjunction whose first one holds, is read but changes nothing.

## Main definitions

* `Shell.Arithmetic.Token`, `Shell.Arithmetic.takeToken` : the tokens of expressions.
* `Shell.Arithmetic.read` : the value of an expression, or of a part of one.
* `Shell.evaluate` : the value of a whole text.
-/

namespace RoutineTiming.Shell

namespace Arithmetic

/-! ### Numbers -/

/-- The digits of a number at the front of a text, with their base, and the rest. A number may begin
with `0x` for base sixteen, or with a zero for base eight. -/
def takeDigits (text : List Char) : Nat × List Char × List Char :=
  let decimal := (10, text.takeWhile Char.isDigit, text.dropWhile Char.isDigit)
  match text with
  | '0' :: x :: d :: rest =>
    if (x = 'x' ∨ x = 'X') ∧ isHexDigit d then
      (16, (d :: rest).takeWhile isHexDigit, (d :: rest).dropWhile isHexDigit)
    else (8, text.takeWhile isOctalDigit, text.dropWhile isOctalDigit)
  | '0' :: _ => (8, text.takeWhile isOctalDigit, text.dropWhile isOctalDigit)
  | _ => decimal

/-- The largest number of 64 bits with sign. -/
def largest : Int := 2 ^ 63 - 1

/-- The smallest number of 64 bits with sign. -/
def smallest : Int := -(2 ^ 63)

/-- The number of 64 bits that is nearest to a number. -/
def clamped (n : Int) : Int64 := Int64.ofInt (max smallest (min largest n))

/-- The number that a text begins with, behind blanks and a sign, whether there is one, and the
rest. -/
def takeSigned (text : List Char) : Int × Bool × List Char :=
  let body := text.dropWhile isNumberBlank
  let (isNegative, digits) :=
    match body with
    | '-' :: rest => (true, rest)
    | '+' :: rest => (false, rest)
    | rest => (false, rest)
  let (base, digits, rest) := takeDigits digits
  if digits = [] then (0, false, text)
  else
    let n : Int := radixValue base digits
    (if isNegative then -n else n, true, rest)

/-- The number that the value of a variable is; one that is empty is zero. -/
def numberIn (text : String) : Run Int64 := do
  let (n, _, rest) := takeSigned text.toList
  if smallest ≤ n ∧ n ≤ largest ∧ rest.all isNumberBlank then return Int64.ofInt n
  else badNumber text

/-! ### Tokens -/

/-- A token of an expression. -/
inductive Token where
  | number (value : Int64)
  | name (text : String)
  | operator (text : String)
  | stop
  /-- A character that no token begins with. -/
  | unknown
  deriving DecidableEq

/-- The operators, longer ones first. -/
def operators : List String :=
  ["<<=", ">>=", "||", "&&", "==", "!=", "<=", ">=", "<<", ">>", "+=", "-=", "*=", "/=", "%=",
    "&=", "^=", "|=", "<", ">", "+", "-", "*", "/", "%", "&", "^", "|", "=", "!", "~", "?", ":",
    "(", ")"]

/-- The token at the front of a text, and the rest. -/
def takeToken (text : List Char) : Token × List Char :=
  let text := text.dropWhile fun c => c = ' ' || c = '\t' || c = '\n'
  match text with
  | [] => (.stop, [])
  | c :: rest =>
    if c.isDigit then
      let (base, digits, rest) := takeDigits text
      (.number (clamped (radixValue base digits)), rest)
    else if isNameStart c then
      (.name (String.ofList (text.takeWhile isNameChar)), text.dropWhile isNameChar)
    else
      match operators.find? fun o => o.toList.isPrefixOf text with
      | some o => (.operator o, text.drop o.length)
      | none => (.unknown, rest)

/-- How tightly an operator with two operands binds; lower numbers bind tighter. -/
def precedence? (operator : String) : Option Nat :=
  match operator with
  | "*" => some 0
  | "/" => some 0
  | "%" => some 0
  | "+" => some 1
  | "-" => some 1
  | "<<" => some 2
  | ">>" => some 2
  | "<" => some 3
  | "<=" => some 3
  | ">" => some 3
  | ">=" => some 3
  | "==" => some 4
  | "!=" => some 4
  | "&" => some 5
  | "^" => some 6
  | "|" => some 7
  | _ => none

/-- The operator with two operands that a token is, with its precedence. -/
def binary? : Token → Option (String × Nat)
  | .operator text => (precedence? text).map (text, ·)
  | _ => none

/-- The operator by which an assignment changes a variable; none for one that only sets it. -/
def assignment? : Token → Option (Option String)
  | .operator "=" => some none
  | .operator text =>
    let front := text.toList.dropLast
    if text.toList.getLast? = some '=' ∧
        ["<<", ">>", "+", "-", "*", "/", "%", "&", "^", "|"].contains (String.ofList front) then
      some (some (String.ofList front))
    else none
  | _ => none

/-! ### Expressions -/

/-- Where an expression is being read. -/
structure Cursor where
  /-- The whole text, for complaints. -/
  text : String
  token : Token
  rest : List Char

/-- The reading of an expression, which gives its value. -/
abbrev Read := StateT Cursor Run

/-- The complaint about an expression. -/
def reject {α : Type} (reason : String) : Read α := do
  let cursor ← get
  fault ("arithmetic expression: " ++ reason ++ ": \"" ++ cursor.text ++ "\"")

/-- The token at hand is passed over. -/
def advance : Read Unit :=
  modify fun cursor =>
    let (token, rest) := takeToken cursor.rest
    { cursor with token, rest }

/-- The token at hand. -/
def token : Read Token := return (← get).token

/-- A truth value as a number. -/
def truth (b : Bool) : Int64 := if b then 1 else 0

/-- What an operator makes of two operands. -/
def apply (operator : String) (a b : Int64) : Read Int64 := do
  match operator with
  | "*" => return a * b
  | "+" => return a + b
  | "-" => return a - b
  | "<<" => return a <<< b
  | ">>" => return a >>> b
  | "<" => return truth (a < b)
  | "<=" => return truth (a ≤ b)
  | ">" => return truth (b < a)
  | ">=" => return truth (b ≤ a)
  | "==" => return truth (a == b)
  | "!=" => return truth (a != b)
  | "&" => return a &&& b
  | "^" => return a ^^^ b
  | "|" => return a ||| b
  | _ =>
    if b = 0 then reject "division by zero"
    else if b = -1 ∧ a = Int64.minValue then throw (.ended (.signaled 8 false))
    else return if operator = "/" then a / b else a % b

/-- A part of an expression. -/
inductive Goal where
  | assignment
  | choice
  | disjunction
  | conjunction
  | operation
  /-- The operations behind an operand whose operators bind tighter than a limit. -/
  | continuation (left : Int64) (operator : String) (limit : Nat)
  | operand

/-- The value of the variable of a name. -/
def valueOf (name : String) : Read Int64 := do
  numberIn (((← getThe State).value? name).getD "")

/-- The precedence above all others. -/
def widest : Nat := 8

/-- One level of an expression, where the levels inside are read as given; what does not count is
only read. -/
def readGoal (read : Goal → (counts : Bool) → Read Int64) (goal : Goal) (counts : Bool) :
    Read Int64 := do
  match goal with
  | .assignment =>
    let cursor ← get
    let (next, rest) := takeToken cursor.rest
    match cursor.token, assignment? next with
    | .name name, some change =>
      set { cursor with token := next, rest }
      advance
      let value ← read .assignment counts
      if counts then
        let value ←
          match change with
          | some operator => apply operator (← valueOf name) value
          | none => pure value
        assign name (String.ofList (integerDigits value.toInt))
        return value
      else return value
    | _, _ => read .choice counts
  | .choice =>
    let condition ← read .disjunction counts
    if (← token) = .operator "?" then
      advance
      let first ← read .assignment (counts && condition ≠ 0)
      if (← token) ≠ .operator ":" then reject "expecting ':'"
      advance
      let second ← read .choice (counts && condition = 0)
      return if condition ≠ 0 then first else second
    else return condition
  | .disjunction =>
    let left ← read .conjunction counts
    if (← token) = .operator "||" then
      advance
      let right ← read .disjunction (counts && left = 0)
      return truth (left ≠ 0 || right ≠ 0)
    else return left
  | .conjunction =>
    let left ← read .operation counts
    if (← token) = .operator "&&" then
      advance
      let right ← read .conjunction (counts && left ≠ 0)
      return truth (left ≠ 0 && right ≠ 0)
    else return left
  | .operation =>
    let left ← read .operand counts
    match binary? (← token) with
    | some (operator, _) => read (.continuation left operator widest) counts
    | none => return left
  | .continuation left operator limit =>
    advance
    let first ← read .operand counts
    let own := (precedence? operator).getD 0
    let right ←
      match binary? (← token) with
      | some (next, precedence) =>
        if precedence < own then read (.continuation first next own) counts else pure first
      | none => pure first
    let value ← if counts then apply operator left right else pure right
    match binary? (← token) with
    | some (next, precedence) =>
      if precedence < limit then read (.continuation value next limit) counts else return value
    | none => return value
  | .operand =>
    match ← token with
    | .operator "(" =>
      advance
      let value ← read .assignment counts
      if (← token) ≠ .operator ")" then reject "expecting ')'"
      advance
      return value
    | .number value =>
      advance
      return value
    | .name name =>
      advance
      if counts then valueOf name else return 0
    | .operator "+" =>
      advance
      read .operand counts
    | .operator "-" =>
      advance
      return -(← read .operand counts)
    | .operator "!" =>
      advance
      return truth ((← read .operand counts) = 0)
    | .operator "~" =>
      advance
      return ~~~(← read .operand counts)
    | _ => reject "expecting primary"

/-- An expression of at most a number of levels. -/
def read : (levels : Nat) → Goal → (counts : Bool) → Read Int64
  | 0, _, _ => reject "too deep"
  | levels + 1, goal, counts => readGoal (read levels) goal counts

end Arithmetic

/-- The value of a text that is an expression. -/
def evaluate (text : String) : Run Int := do
  let (token, rest) := Arithmetic.takeToken text.toList
  let action : Arithmetic.Read Int64 := do
    let value ← Arithmetic.read (8 * text.length + 16) .assignment true
    if (← Arithmetic.token) ≠ .stop then Arithmetic.reject "expecting EOF"
    return value
  let (value, _) ← action.run { text, token, rest }
  return value.toInt

end RoutineTiming.Shell
