import RoutineTiming.Toml.Reading

/-!
# Strings in TOML

A string stands between double quotes, with escapes, or between single quotes, without. Three
quotes on either side let it run over several lines: a line feed directly behind the opening quotes
is dropped, and one or two quotes may stand anywhere inside, also directly before the closing ones.

## Main definitions

* `Toml.readLine?` : a string on one line, as it may also stand for a key.
* `Toml.readQuotation?` : a string on one line or on several.
-/

namespace RoutineTiming.Toml

/-- A character given by its code point in `count` hexadecimal digits. -/
def takeCodePoint (count : Nat) : Reader (List Char) := fun text =>
  (takeDigits 16 isHexDigit count text).bind fun (n, rest) =>
    if n.isValidChar then some ([Char.ofNat n], rest) else none

/-- The character meant by an escape, from behind its backslash. -/
def takeEscape : Reader (List Char)
  | 'b' :: rest => some (['\x08'], rest)
  | 't' :: rest => some (['\t'], rest)
  | 'n' :: rest => some (['\n'], rest)
  | 'f' :: rest => some (['\x0c'], rest)
  | 'r' :: rest => some (['\r'], rest)
  | '"' :: rest => some (['"'], rest)
  | '\\' :: rest => some (['\\'], rest)
  | 'u' :: rest => takeCodePoint 4 rest
  | 'U' :: rest => takeCodePoint 8 rest
  | _ => none

/-- A character that stands for itself in a string: a tab, or any character that is no control,
except for the quote in use and, where escapes are read, the backslash. -/
def isPlain (quote : Char) (escapes : Bool) (c : Char) : Bool :=
  isCommentChar c && c ≠ quote && !(escapes && c = '\\')

/-- The characters that stand for themselves at the front of the text, at least one. -/
def takePlain (quote : Char) (escapes : Bool) : Reader (List Char) := fun text =>
  let plain := text.takeWhile (isPlain quote escapes)
  if plain = [] then none else some (plain, text.dropWhile (isPlain quote escapes))

/-- The end of a line behind a backslash, with all blanks and line feeds up to the next
character. -/
def takeContinuation : Reader (List Char) := fun text =>
  (takeLineFeed (skipBlanks text)).map fun (_, rest) =>
    let blank : Reader Unit := fun text =>
      match text with
      | c :: rest => if isGap c then some ((), rest) else takeLineFeed text
      | [] => none
    ([], (many blank rest).2)

/-- A piece of a string on one line. -/
def takePiece (quote : Char) (escapes : Bool) : Reader (List Char) := fun text =>
  match text with
  | '\\' :: rest => if escapes then takeEscape rest else takePlain quote escapes text
  | _ => takePlain quote escapes text

/-- A piece of a string on several lines that is not a quote. -/
def takeLongPiece (quote : Char) (escapes : Bool) : Reader (List Char) := fun text =>
  match takeLineFeed text with
  | some (_, rest) => some (['\n'], rest)
  | none =>
    match text with
    | '\\' :: rest =>
      if escapes then (takeEscape rest).or (takeContinuation rest)
      else takePlain quote escapes text
    | _ => takePlain quote escapes text

/-- A string on one line between quotes. -/
def readBetween? (quote : Char) (escapes : Bool) : Reader String := fun text => do
  let rest ← expect [quote] text
  let (pieces, rest) := many (takePiece quote escapes) rest
  let rest ← expect [quote] rest
  return (String.ofList pieces.flatten, rest)

/-- One or two quotes that stand for themselves before another piece of a string on several
lines, together with that piece. -/
def takeInnerQuotes (quote : Char) (escapes : Bool) : Reader (List Char) := fun text =>
  let after (quotes : List Char) : Option (List Char × List Char) := do
    let rest ← expect quotes text
    let (piece, rest) ← takeLongPiece quote escapes rest
    return (quotes ++ piece, rest)
  (after [quote, quote]).or (after [quote])

/-- The quotes that end a string on several lines, as the quotes of them that belong to it. -/
def takeClosing (quote : Char) : Reader (List Char) := fun text =>
  let after (quotes : List Char) : Option (List Char × List Char) := do
    let rest ← expect (quotes ++ [quote, quote, quote]) text
    return (quotes, rest)
  ((after [quote, quote]).or (after [quote])).or (after [])

/-- A string on several lines between quotes in threes. -/
def readLong? (quote : Char) (escapes : Bool) : Reader String := fun text => do
  let rest ← expect [quote, quote, quote] text
  let rest := ((takeLineFeed rest).map Prod.snd).getD rest
  let piece : Reader (List Char) := fun text =>
    (takeLongPiece quote escapes text).or (takeInnerQuotes quote escapes text)
  let (pieces, rest) := many piece rest
  let (last, rest) ← takeClosing quote rest
  return (String.ofList (pieces.flatten ++ last), rest)

/-- A string on one line. -/
def readLine? : Reader String := fun text =>
  (readBetween? '"' true text).or (readBetween? '\'' false text)

/-- A string on one line or on several. -/
def readQuotation? : Reader String := fun text =>
  match text with
  | '"' :: '"' :: '"' :: _ => readLong? '"' true text
  | '\'' :: '\'' :: '\'' :: _ => readLong? '\'' false text
  | _ => readLine? text

end RoutineTiming.Toml
