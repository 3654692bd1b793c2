import RoutineTiming.Json.Basic
import RoutineTiming.Toml.Reading

/-!
# Reading JSON

A strict reader of JSON documents. A text holds one value with blanks around it and nothing else;
numbers have no needless zeros in front and digits on both sides of a point; strings hold no bare
control characters and no halves of surrogate pairs; no comma stands behind a last element.

A number without a sign, a point and a power is read as a natural number, and any other one as the
nearest binary64 number, which has to be finite.

## Main definitions

* `Json.readString`, `Json.readNumber` : strings and numbers.
* `Json.readValue` : a value at the front of a text.
* `Json.read?` : the value that a whole text denotes.
-/

namespace RoutineTiming.Json

/-! ### Between values -/

/-- A character that may stand anywhere between values. -/
def isSpace (c : Char) : Bool := c = ' ' || c = '\t' || c = '\n' || c = '\r'

/-- The text without the blanks at its front. -/
def skipSpace (text : List Char) : List Char := text.dropWhile isSpace

/-! ### Strings -/

/-- The character denoted by one code unit of four hexadecimal digits, or by two of them that form
a surrogate pair; from behind the first `\u`. -/
def takeUnits : Reader Char := fun text => do
  let (first, rest) ← Toml.takeDigits 16 isHexDigit 4 text
  if 0xD800 ≤ first ∧ first < 0xDC00 then
    let rest ← expect ['\\', 'u'] rest
    let (second, rest) ← Toml.takeDigits 16 isHexDigit 4 rest
    if 0xDC00 ≤ second ∧ second < 0xE000 then
      some (Char.ofNat (0x10000 + (first - 0xD800) * 0x400 + (second - 0xDC00)), rest)
    else
      none
  else if first.isValidChar then
    some (Char.ofNat first, rest)
  else
    none

/-- The character meant by an escape, from behind its backslash. -/
def takeEscape : Reader Char
  | '"' :: rest => some ('"', rest)
  | '\\' :: rest => some ('\\', rest)
  | '/' :: rest => some ('/', rest)
  | 'b' :: rest => some ('\x08', rest)
  | 'f' :: rest => some ('\x0c', rest)
  | 'n' :: rest => some ('\n', rest)
  | 'r' :: rest => some ('\r', rest)
  | 't' :: rest => some ('\t', rest)
  | 'u' :: rest => takeUnits rest
  | _ => none

/-- One character of a string. -/
def takeChar : Reader Char
  | '\\' :: rest => takeEscape rest
  | c :: rest => if c = '"' ∨ c.toNat < 0x20 then none else some (c, rest)
  | [] => none

/-- A string in its quotes. -/
def readString : Reader String := fun text => do
  let rest ← expect ['"'] text
  let (characters, rest) := many takeChar rest
  let rest ← expect ['"'] rest
  return (String.ofList characters, rest)

/-! ### Numbers -/

/-- All digits at the front of the text, at least one. -/
def takeDigits : Reader (List Char) := fun text =>
  let digits := text.takeWhile Char.isDigit
  if digits = [] then none else some (digits, text.dropWhile Char.isDigit)

/-- The digits in front of a point: a zero alone, or digits that begin with another one. -/
def takeWhole : Reader (List Char) := fun text =>
  match text with
  | '0' :: rest => some (['0'], rest)
  | _ => takeDigits text

/-- A point with digits behind it, or nothing. -/
def takeFraction : Reader (List Char) := fun text =>
  match text with
  | '.' :: rest => takeDigits rest
  | _ => some ([], text)

/-- The letter `e` with an optional sign and digits behind it, or nothing. -/
def takePower : Reader (Option Int) := fun text =>
  match text with
  | c :: rest =>
    if c = 'e' ∨ c = 'E' then
      match rest with
      | '-' :: rest =>
        (takeDigits rest).map fun (digits, rest) => (some (-(digitsValue 0 digits : Int)), rest)
      | '+' :: rest =>
        (takeDigits rest).map fun (digits, rest) => (some (digitsValue 0 digits : Int), rest)
      | rest =>
        (takeDigits rest).map fun (digits, rest) => (some (digitsValue 0 digits : Int), rest)
    else
      some (none, text)
  | [] => some (none, text)

/-- A number without its sign. -/
def readUnsigned (negative : Bool) : Reader Json := fun text => do
  let (whole, rest) ← takeWhole text
  let (fraction, rest) ← takeFraction rest
  let (power, rest) ← takePower rest
  if negative = false ∧ fraction = [] ∧ power = none then
    return (.natural (digitsValue 0 whole), rest)
  else
    let x := Binary64.ofDecimal negative
      ⟨digitsValue 0 (whole ++ fraction), power.getD 0 - fraction.length⟩
    if x.isFinite then some (.number x, rest) else none

/-- A number. -/
def readNumber : Reader Json := fun text =>
  match text with
  | '-' :: rest => readUnsigned true rest
  | _ => readUnsigned false text

/-! ### Values -/

/-- An item with a comma in front of it. -/
def readNext {α : Type} (item : Reader α) : Reader α := fun text => do
  let rest ← expect [','] (skipSpace text)
  item (skipSpace rest)

/-- Items with commas between them and the bracket that closes them, from behind the opening one. -/
def readItems {α : Type} (close : Char) (item : Reader α) : Reader (List α) := fun text =>
  let inside := skipSpace text
  match expect [close] inside with
  | some rest => some ([], rest)
  | none => do
    let (first, rest) ← item inside
    let (others, rest) := many (readNext item) rest
    let rest ← expect [close] (skipSpace rest)
    return (first :: others, rest)

/-- A name and its value. -/
def readMember (value : Reader Json) : Reader (String × Json) := fun text => do
  let (name, rest) ← readString text
  let rest ← expect [':'] (skipSpace rest)
  let (v, rest) ← value (skipSpace rest)
  return ((name, v), rest)

/-- A value in which arrays and objects nest less deep than `depth`. -/
def readValue : (depth : Nat) → Reader Json
  | 0, _ => none
  | depth + 1, text =>
    match text with
    | '[' :: rest =>
      (readItems ']' (readValue depth) rest).map fun (elements, rest) => (.array elements, rest)
    | '\x7b' :: rest =>
      (readItems '\x7d' (readMember (readValue depth)) rest).map fun (members, rest) =>
        (.object members, rest)
    | '"' :: _ => (readString text).map fun (s, rest) => (.string s, rest)
    | 'n' :: _ => (expect "null".toList text).map fun rest => (.null, rest)
    | 't' :: _ => (expect "true".toList text).map fun rest => (.bool true, rest)
    | 'f' :: _ => (expect "false".toList text).map fun rest => (.bool false, rest)
    | _ => readNumber text

/-- The value that a whole text denotes. Nothing nests as deep as the text is long. -/
def read? (text : String) : Option Json :=
  let characters := text.toList
  (readValue (characters.length + 1) (skipSpace characters)).bind fun (value, rest) =>
    if skipSpace rest = [] then some value else none

end RoutineTiming.Json
