import RoutineTiming.Decimal.Shortest

/-!
# JSON values

The values of JSON documents and their text, one member or element to a line, indented by two
spaces per level. A number that is finite is written as the shortest decimal that reads back as it;
JSON has no other numbers, and the rest are written as `null`.

## Main definitions

* `Json` : the values; objects keep the order of their members.
* `Json.pretty` : the indented text.
-/

namespace RoutineTiming

/-- A JSON value. -/
inductive Json where
  | null
  | bool (b : Bool)
  | natural (n : Nat)
  | number (x : Binary64)
  | string (text : String)
  | array (elements : List Json)
  | object (members : List (String × Json))

namespace Json

/-! ### Scalars -/

/-- Numbers whose leading digit stands at `10⁻⁵` up to `10¹⁵` are written positionally. -/
def numberLayout : DecimalLayout := ⟨some (-5), some 16⟩

/-- The text of a number. -/
def numberText : Binary64 → List Char
  | .nan => "null".toList
  | .infinite _ => "null".toList
  | .finite negative quanta _ =>
    let digits := numberLayout.write (Binary64.shortest quanta)
    if negative then '-' :: digits else digits

/-- A character inside a JSON string: quotes, backslashes and the controls below the space are
escaped, all others stand for themselves. -/
def stringChar (c : Char) : List Char :=
  match c with
  | '"' => ['\\', '"']
  | '\\' => ['\\', '\\']
  | '\n' => ['\\', 'n']
  | '\r' => ['\\', 'r']
  | '\t' => ['\\', 't']
  | '\x08' => ['\\', 'b']
  | '\x0c' => ['\\', 'f']
  | c =>
    if c.toNat < 0x20 then
      ['\\', 'u', '0', '0', Nat.digitChar (c.toNat / 16), Nat.digitChar (c.toNat % 16)]
    else
      [c]

/-- The text of a string. -/
def stringText (text : String) : List Char := '"' :: text.toList.flatMap stringChar ++ ['"']

/-! ### Documents -/

/-- A new line at a level. -/
def newLine (level : Nat) : List Char := '\n' :: List.replicate (2 * level) ' '

mutual

/-- The text of a value that begins at a level. -/
def text (level : Nat) : Json → List Char
  | .null => "null".toList
  | .bool true => "true".toList
  | .bool false => "false".toList
  | .natural n => digitsOf n
  | .number x => numberText x
  | .string s => stringText s
  | .array [] => ['[', ']']
  | .array (first :: rest) =>
    '[' :: newLine (level + 1) ++ text (level + 1) first ++ elementsText (level + 1) rest ++
      newLine level ++ [']']
  | .object [] => ['\x7b', '\x7d']
  | .object ((name, value) :: rest) =>
    '\x7b' :: newLine (level + 1) ++ stringText name ++ [':', ' '] ++ text (level + 1) value ++
      membersText (level + 1) rest ++ newLine level ++ ['\x7d']

/-- The text of the elements after the first. -/
def elementsText (level : Nat) : List Json → List Char
  | [] => []
  | value :: rest => ',' :: newLine level ++ text level value ++ elementsText level rest

/-- The text of the members after the first. -/
def membersText (level : Nat) : List (String × Json) → List Char
  | [] => []
  | (name, value) :: rest =>
    ',' :: newLine level ++ stringText name ++ [':', ' '] ++ text level value ++
      membersText level rest

end

/-- The indented text of a document. -/
def pretty (document : Json) : String := String.ofList (text 0 document)

end Json

end RoutineTiming
