import RoutineTiming.Text.Shown

/-!
# Quoted text

A text is quoted in messages so that every character of it can be told apart: between double
quotes, with a backslash before a double quote or a backslash, short escapes for the common
controls, and the code point in braces for every other character that is not shown as itself.

## Main definitions

* `quoted` : the text between quotes with its escapes.
-/

namespace RoutineTiming

/-- The escape that gives the code point of a character in lower-case hexadecimal. -/
def codePointEscape (c : Char) : List Char :=
  ['\\', 'u', '\x7b'] ++ Nat.toDigits 16 c.toNat ++ ['\x7d']

/-- A character inside quotes. -/
def quotedChar (c : Char) : List Char :=
  match c with
  | '"' => ['\\', '"']
  | '\\' => ['\\', '\\']
  | '\n' => ['\\', 'n']
  | '\r' => ['\\', 'r']
  | '\t' => ['\\', 't']
  | '\x00' => ['\\', '0']
  | c => if isShown c then [c] else codePointEscape c

/-- The text between double quotes, with escapes for what could not be told apart. -/
def quoted (text : String) : String :=
  String.ofList ('"' :: text.toList.flatMap quotedChar ++ ['"'])

end RoutineTiming
