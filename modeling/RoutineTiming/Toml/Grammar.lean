import RoutineTiming.Toml.Document
import RoutineTiming.Toml.Moment
import RoutineTiming.Toml.Number
import RoutineTiming.Toml.Quotation

/-!
# The text of a TOML document

A document is a sequence of lines, each of them empty, a header or a pair, with an optional comment.
Values nest up to a limit, and so do the parts of a key.

## Main definitions

* `Toml.readValue` : a value.
* `Toml.readKey` : a key of one or more parts.
* `Toml.readDocument?` : the table that a whole text denotes.
-/

namespace RoutineTiming.Toml

/-! ### Keys -/

/-- A character of a key without quotes. -/
def isBareKeyChar (c : Char) : Bool := c.isAlphanum || c = '_' || c = '-'

/-- One part of a key, without blanks around it. -/
def readPart : Reader String := fun text =>
  match text with
  | '"' :: _ => readLine? text
  | '\'' :: _ => readLine? text
  | _ =>
    let part := text.takeWhile isBareKeyChar
    if part = [] then none
    else some (String.ofList part, text.dropWhile isBareKeyChar)

/-- One part of a key with blanks around it. -/
def readSpacedPart : Reader String := fun text =>
  (readPart (skipBlanks text)).map fun (part, rest) => (part, skipBlanks rest)

/-- A part of a key behind a point. -/
def readNextPart : Reader String := fun text =>
  match text with
  | '.' :: rest => readSpacedPart rest
  | _ => none

/-- The first number of parts that a key does not have, and the first depth to which values do not
nest. -/
def nestingLimit : Nat := 80

/-- A key: parts with points between them, each with blanks around it. -/
def readKey : Reader Key := fun text => do
  let (first, rest) ← readSpacedPart text
  let (others, rest) := many readNextPart rest
  let parts := first :: others
  if parts.length < nestingLimit then
    some (⟨parts.dropLast, parts.getLast?.getD first⟩, rest)
  else
    none

/-! ### Values -/

/-- A character of a value without quotes or brackets. -/
def isTokenChar (c : Char) : Bool :=
  c.isAlphanum || c = '_' || c = '-' || c = '+' || c = '.' || c = ':'

/-- A number or a truth value that a whole text denotes. -/
def readToken? (text : List Char) : Option Value :=
  if text = "true".toList then
    some (.boolean true)
  else if text = "false".toList then
    some (.boolean false)
  else
    ((readInteger? text).map Value.integer).or ((readFloat? text).map Value.float)

/-- A value without brackets. -/
def readScalar : Reader Value := fun text =>
  match text with
  | '"' :: _ => (readQuotation? text).map fun (s, rest) => (.string s, rest)
  | '\'' :: _ => (readQuotation? text).map fun (s, rest) => (.string s, rest)
  | _ =>
    match readMoment? text with
    | some (moment, rest) => some (.moment moment, rest)
    | none =>
      (readToken? (text.takeWhile isTokenChar)).map fun v => (v, text.dropWhile isTokenChar)

/-- An element of an array with a comma in front of it, and what may stand around both. -/
def readNextElement (value : Reader Value) : Reader Value := fun text =>
  match text with
  | ',' :: rest => (value (skipFiller rest)).map fun (v, rest) => (v, skipFiller rest)
  | _ => none

/-- The elements of an array and its closing bracket, from behind the opening one. The last element
may have a comma behind it. -/
def readElements (value : Reader Value) : Reader (List Value) := fun text =>
  match skipFiller text with
  | ']' :: rest => some ([], rest)
  | inside => do
    let (first, rest) ← value inside
    let (others, rest) := many (readNextElement value) (skipFiller rest)
    let rest :=
      match rest with
      | ',' :: rest => skipFiller rest
      | _ => rest
    let rest ← expect [']'] rest
    return (first :: others, rest)

/-- A pair of a key and a value, with the blanks behind it. -/
def readPair (value : Reader Value) : Reader Pair := fun text => do
  let (key, rest) ← readKey text
  let rest ← expect ['='] rest
  let (v, rest) ← value (skipBlanks rest)
  return (⟨key, v⟩, skipBlanks rest)

/-- A pair with a comma in front of it. -/
def readNextPair (value : Reader Value) : Reader Pair := fun text =>
  match text with
  | ',' :: rest => readPair value rest
  | _ => none

/-- The pairs of a table on one line and its closing brace, from behind the opening one. -/
def readPairs (value : Reader Value) : Reader (List Pair) := fun text =>
  match skipBlanks text with
  | '\x7d' :: rest => some ([], rest)
  | _ => do
    let (first, rest) ← readPair value text
    let (others, rest) := many (readNextPair value) rest
    let rest ← expect ['\x7d'] rest
    return (first :: others, rest)

/-- A value in which arrays and tables nest less deep than `depth`. -/
def readValue : (depth : Nat) → Reader Value
  | 0, _ => none
  | depth + 1, text =>
    match text with
    | '[' :: rest =>
      if depth = 0 then none
      else (readElements (readValue depth) rest).map fun (elements, rest) =>
        (.array elements, rest)
    | '\x7b' :: rest =>
      if depth = 0 then none
      else (readPairs (readValue depth) rest).bind fun (pairs, rest) =>
        (inlineTable pairs).map fun table => (table, rest)
    | _ => readScalar text

/-! ### Lines -/

/-- A pair on a line of its own, with the lines up to the next one that is not empty. -/
def readPairLine : Reader Pair := fun text => do
  let (pair, rest) ← readPair (readValue nestingLimit) text
  let rest ← endLine rest
  return (pair, skipFiller rest)

/-- A header on a line of its own, with the lines up to the next one that is not empty. -/
def readHeader : Reader Header := fun text =>
  match text with
  | '[' :: '[' :: rest => do
    let (key, rest) ← readKey rest
    let rest ← expect [']', ']'] rest
    let rest ← endLine rest
    return (.element key, skipFiller rest)
  | '[' :: rest => do
    let (key, rest) ← readKey rest
    let rest ← expect [']'] rest
    let rest ← endLine rest
    return (.table key, skipFiller rest)
  | _ => none

/-- A header with the pairs behind it. -/
def readSection : Reader Section := fun text => do
  let (header, rest) ← readHeader text
  let (pairs, rest) := many readPairLine rest
  return (⟨header, pairs⟩, rest)

/-- The table that a whole text denotes; a byte order mark may stand at its front. -/
def readDocument? (text : String) : Option (List (String × Value)) :=
  let characters :=
    match text.toList with
    | '\ufeff' :: rest => rest
    | all => all
  let (pairs, rest) := many readPairLine (skipFiller characters)
  let (sections, rest) := many readSection rest
  if rest = [] then assemble pairs sections else none

end RoutineTiming.Toml
