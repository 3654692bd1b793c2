import RoutineTiming.Shell.Arithmetic
import RoutineTiming.Shell.Conversion

/-!
# Formatted output of the shell

The escapes that `echo` and `printf` replace, and the formats of `printf`. A format is used again as
long as arguments remain.

## Main definitions

* `Shell.unescaped` : a text with its escapes replaced.
* `Shell.nextNumber`, `Shell.nextFraction` : arguments as numbers.
* `Shell.printFormatted` : a format with arguments.
-/

namespace RoutineTiming.Shell

/-! ### Escapes -/

/-- The character with a code, of which only the last eight bits count. -/
def byteChar (code : Nat) : Char := Char.ofNat (code % 256)

/-- The character of an escape, from behind its backslash, and the rest. A backslash that begins no
escape stands for itself. -/
def takeEscape (text : List Char) : Char × List Char :=
  match text with
  | 'a' :: rest => ('\x07', rest)
  | 'b' :: rest => ('\x08', rest)
  | 'e' :: rest => ('\x1b', rest)
  | 'f' :: rest => ('\x0c', rest)
  | 'n' :: rest => ('\n', rest)
  | 'r' :: rest => ('\r', rest)
  | 't' :: rest => ('\t', rest)
  | 'v' :: rest => ('\x0b', rest)
  | '\\' :: rest => ('\\', rest)
  | text =>
    let digits := (text.take 3).takeWhile isOctalDigit
    if digits = [] then ('\\', text) else (byteChar (radixValue 8 digits), text.drop digits.length)

/-- A text with its escapes replaced, and whether an escape ends all output. An octal escape may
have a zero in front. -/
def unescaped : (fuel : Nat) → List Char → List Char × Bool
  | 0, _ => ([], false)
  | _, [] => ([], false)
  | _, '\\' :: 'c' :: _ => ([], true)
  | fuel + 1, '\\' :: '0' :: d :: rest =>
    let (c, rest) :=
      if isOctalDigit d then takeEscape (d :: rest) else ('\x00', d :: rest)
    let (more, ends) := unescaped fuel rest
    (c :: more, ends)
  | fuel + 1, '\\' :: rest =>
    let (c, rest) := takeEscape rest
    let (more, ends) := unescaped fuel rest
    (c :: more, ends)
  | fuel + 1, c :: rest =>
    let (more, ends) := unescaped fuel rest
    (c :: more, ends)

/-- What `echo` prints for its arguments, and whether an escape ends all output. -/
def echoed : List String → List Char × Bool
  | [] => ([], false)
  | [text] => unescaped (text.length + 1) text.toList
  | text :: rest =>
    let (front, ends) := unescaped (text.length + 1) text.toList
    if ends then (front, true)
    else
      let (more, ends) := echoed rest
      (front ++ ' ' :: more, ends)

/-! ### Arguments -/

/-- Where a format stands: the arguments that remain, and whether all went well so far. -/
structure FormatState where
  arguments : List String
  isSound : Bool := true
  /-- An escape ended all output. -/
  ends : Bool := false

/-- The printing of a format. -/
abbrev Formatting := StateT FormatState Run

/-- The next argument, if there is one. -/
def nextArgument : Formatting (Option String) := do
  let state ← get
  set { state with arguments := state.arguments.tail }
  return state.arguments.head?

/-- A complaint about an argument. -/
def complainAbout (argument reason : String) : Formatting Unit := do
  modify fun state => { state with isSound := false }
  warn (argument ++ ": " ++ reason)

/-- The complaint about an argument of which a part is no number, if there is one. -/
def checkRest (argument : String) (rest : List Char) : Formatting Bool := do
  if rest = [] then return true
  else
    complainAbout argument
      (if rest = argument.toList then "expected numeric value" else "not completely converted")
    return false

/-- The code of the first character, zero if there is none. -/
def firstCode (text : List Char) : Nat := (text.head?.map Char.toNat).getD 0

/-- The complaint that a number is larger or smaller than those that can be used. -/
def complainOfRange (argument : String) : Formatting Unit :=
  complainAbout argument "Numerical result out of range"

/-- The next argument as a whole number between two bounds; a quote in front of a character stands
for its code. -/
def nextNumber (least greatest : Int) : Formatting Int := do
  match ← nextArgument with
  | none => return 0
  | some argument =>
    match argument.toList with
    | '"' :: rest => return firstCode rest
    | '\'' :: rest => return firstCode rest
    | text =>
      let (n, _, rest) := Arithmetic.takeSigned text
      let isComplete ← checkRest argument rest
      if isComplete ∧ (n < least ∨ greatest < n) then complainOfRange argument
      return max least (min greatest n)

/-- The next argument as a number with a fraction; a quote in front of a character stands for its
code. -/
def nextFraction : Formatting Fraction := do
  match ← nextArgument with
  | none => return {}
  | some argument =>
    match argument.toList with
    | '"' :: rest => return .ofNat (firstCode rest)
    | '\'' :: rest => return .ofNat (firstCode rest)
    | text =>
      let (fraction, rest) := takeFraction text
      let isComplete ← checkRest argument rest
      if isComplete ∧ fraction.isOutOfRange then complainOfRange argument
      return fraction

/-! ### Formats -/

/-- Characters are printed. -/
def emit (text : List Char) : Formatting Unit := printBytes (charBytes text)

/-- A number in a format, or a star for the next argument. -/
def takeSize (text : List Char) : Formatting (Option Int × List Char) := do
  match text with
  | '*' :: rest => return (some (← nextNumber (-(2 ^ 31)) (2 ^ 31 - 1)), rest)
  | text =>
    let digits := text.takeWhile Char.isDigit
    return (if digits = [] then none else some (digitsValue 0 digits), text.drop digits.length)

/-- A conversion, from behind its percent sign, and the rest. -/
def takeConversion (text : List Char) : Formatting (Conversion × List Char) := do
  let isFlag (c : Char) : Bool := ['#', '-', '+', ' ', '0'].contains c
  let flags := text.takeWhile isFlag
  let (width, rest) ← takeSize (text.drop flags.length)
  let (precision, rest) ←
    match rest with
    | '.' :: rest =>
      let (precision, rest) ← takeSize rest
      pure (some (precision.getD 0), rest)
    | rest => pure (none, rest)
  let flags := if width.any (· < 0) then '-' :: flags else flags
  match rest with
  | kind :: rest =>
    let precision := (precision.filter (0 ≤ ·)).map Int.toNat
    return (⟨flags, (width.getD 0).natAbs, precision, kind⟩, rest)
  | [] => fault "missing format character"

/-- The next argument under a conversion, which is written as given. -/
def printConversion (c : Conversion) (written : List Char) : Formatting Unit := do
  let cut (text : List Char) : List Char :=
    match c.precision with
    | some p => text.take p
    | none => text
  match c.kind with
  | 's' => emit (c.filled (cut ((← nextArgument).getD "").toList))
  | 'b' =>
    let text := ((← nextArgument).getD "").toList
    let (text, ends) := unescaped (text.length + 1) text
    emit (c.filled (cut text))
    if ends then modify fun state => { state with ends := true }
  | 'c' => emit (c.filled [((← nextArgument).bind fun s => s.toList.head?).getD '\x00'])
  | kind =>
    if kind = 'd' ∨ kind = 'i' then
      emit (c.signedText (← nextNumber Arithmetic.smallest Arithmetic.largest))
    else if ['o', 'u', 'x', 'X'].contains kind then
      let n ← nextNumber (-(2 ^ 64 - 1)) (2 ^ 64 - 1)
      emit (c.unsignedText (n % 2 ^ 64).toNat)
    else if ['a', 'A', 'e', 'E', 'f', 'F', 'g', 'G'].contains kind then
      emit (c.fractionText (← nextFraction))
    else fault ("%" ++ String.ofList written ++ ": invalid directive")

/-- A format used once. -/
def formatOnce : (fuel : Nat) → List Char → Formatting Unit
  | 0, _ => return ()
  | _, [] => return ()
  | fuel + 1, '\\' :: rest => do
    let (c, rest) := takeEscape rest
    emit [c]
    formatOnce fuel rest
  | fuel + 1, '%' :: '%' :: rest => do
    emit ['%']
    formatOnce fuel rest
  | fuel + 1, '%' :: text => do
    let (conversion, rest) ← takeConversion text
    printConversion conversion (text.take (text.length - rest.length))
    if (← get).ends then return () else formatOnce fuel rest
  | fuel + 1, c :: rest => do
    emit [c]
    formatOnce fuel rest

/-- A format used as long as arguments remain and it takes some of them. -/
def formatAll (format : List Char) : (fuel : Nat) → Formatting Unit
  | 0 => return ()
  | fuel + 1 => do
    let before := (← get).arguments.length
    formatOnce (format.length + 1) format
    let state ← get
    if state.ends ∨ state.arguments.isEmpty ∨ state.arguments.length = before then return ()
    else formatAll format fuel

/-- A format with arguments is printed; the result says whether all arguments were as they should
be. -/
def printFormatted (format : String) (arguments : List String) : Run Bool := do
  let (_, state) ← (formatAll format.toList (arguments.length + 1)).run { arguments }
  return state.isSound

end RoutineTiming.Shell
