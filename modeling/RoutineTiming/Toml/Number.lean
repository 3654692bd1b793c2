import RoutineTiming.Toml.Reading
import RoutineTiming.Decimal.Basic

/-!
# Numbers in TOML

An integer is written in decimal with an optional sign and no leading zero, or behind `0x`, `0o` or
`0b`, and fits into 64 bits with sign. A number with a point or an exponent, or the name of an
infinity or of not-a-number, is a floating point number; one above every finite number is refused.
Underscores may stand between two digits.

## Main definitions

* `Toml.readInteger?` : the integer that a whole text denotes.
* `Toml.readFloat?` : the floating point number that a whole text denotes.
-/

namespace RoutineTiming.Toml

/-- The digits without the underscores between them; every underscore stands between two digits
and there is at least one digit. -/
def joinedDigits? (isDigit : Char → Bool) : List Char → Option (List Char)
  | [] => none
  | [c] => if isDigit c then some [c] else none
  | c :: '_' :: rest =>
    if isDigit c then (joinedDigits? isDigit rest).map (c :: ·) else none
  | c :: rest => if isDigit c then (joinedDigits? isDigit rest).map (c :: ·) else none

/-- Digits in decimal without a leading zero, except for zero itself. -/
def wholeDigits? (text : List Char) : Option (List Char) :=
  match text with
  | '0' :: _ :: _ => none
  | _ => joinedDigits? Char.isDigit text

/-- The sign in front of a number, true for a minus sign, and the text behind it. -/
def splitSign : List Char → Bool × List Char
  | '-' :: rest => (true, rest)
  | '+' :: rest => (false, rest)
  | text => (false, text)

/-- The number if it fits into 64 bits with sign. -/
def fitted? (n : Int) : Option Int :=
  if -(2 ^ 63) ≤ n ∧ n < 2 ^ 63 then some n else none

/-- The integer written in a base of two, eight or sixteen. -/
def readBased? (base : Nat) (isDigit : Char → Bool) (text : List Char) : Option Int :=
  (joinedDigits? isDigit text).bind fun digits =>
    fitted? (radixValue base digits)

/-- The integer that a whole text denotes. -/
def readInteger? (text : List Char) : Option Int :=
  match text with
  | '0' :: 'x' :: rest =>
    readBased? 16 isHexDigit rest
  | '0' :: 'o' :: rest => readBased? 8 isOctalDigit rest
  | '0' :: 'b' :: rest => readBased? 2 (fun c => c = '0' || c = '1') rest
  | text =>
    let (negative, digits) := splitSign text
    (wholeDigits? digits).bind fun digits =>
      let n : Int := digitsValue 0 digits
      fitted? (if negative then -n else n)

/-- The exponent of a floating point number: none at all, or `e` with an optional sign and digits,
leading zeros allowed. -/
def readPower? : List Char → Option Int
  | [] => some 0
  | c :: rest =>
    if c = 'e' ∨ c = 'E' then
      let (negative, digits) := splitSign rest
      (joinedDigits? Char.isDigit digits).map fun digits =>
        let n : Int := digitsValue 0 digits
        if negative then -n else n
    else
      none

/-- The character may stand in digits with underscores. -/
def isDigitOrGap (c : Char) : Bool := c.isDigit || c = '_'

/-- The decimal that a whole text without sign denotes as a floating point number. -/
def readDecimal? (text : List Char) : Option Decimal := do
  let whole ← wholeDigits? (text.takeWhile isDigitOrGap)
  match text.dropWhile isDigitOrGap with
  | [] => none
  | '.' :: rest =>
    let fraction ← joinedDigits? Char.isDigit (rest.takeWhile isDigitOrGap)
    let power ← readPower? (rest.dropWhile isDigitOrGap)
    return ⟨digitsValue 0 (whole ++ fraction), power - fraction.length⟩
  | rest =>
    let power ← readPower? rest
    return ⟨digitsValue 0 whole, power⟩

/-- The floating point number that a whole text denotes. -/
def readFloat? (text : List Char) : Option Binary64 :=
  let (negative, body) := splitSign text
  if body = ['i', 'n', 'f'] then
    some (.infinite negative)
  else if body = ['n', 'a', 'n'] then
    some .nan
  else
    (readDecimal? body).bind fun d =>
      let x := Binary64.ofDecimal negative d
      if x = .infinite false then none else some x

end RoutineTiming.Toml
