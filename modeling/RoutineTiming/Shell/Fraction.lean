import RoutineTiming.Decimal.Basic
import RoutineTiming.Shell.State
import RoutineTiming.Text.Radix

/-!
# Numbers with a fraction in the shell

A text can begin with a number with a fraction, which is written with decimal digits, or with
hexadecimal ones and a power of two, or is an infinity or not a number. The number is rounded to a
binary64 number. It is out of range if it is too large for that, or if it is so small that it has
fewer digits there and some of them are lost.

## Main definitions

* `Shell.Fraction` : the number.
* `Shell.Fraction.ofRatio` : a ratio as such a number.
* `Shell.takeFraction` : the number that a text begins with.
-/

namespace RoutineTiming.Shell

/-- A number with a fraction. -/
structure Fraction where
  /-- It has a minus sign, which is kept where there is no number. -/
  isNegative : Bool := false
  value : Binary64 := Binary64.zero false
  /-- It is none of the numbers that can be used, and the nearest of them takes its place. -/
  isOutOfRange : Bool := false

namespace Fraction

/-- A natural number. -/
def ofNat (n : Nat) : Fraction := { value := Binary64.ofNat n }

/-- Numbers from this number of quanta on, less a quarter, have all their digits. -/
def normalQuanta : Nat := 2 ^ 52

/-- The number with a sign that is a ratio of quanta. -/
def ofRatio (isNegative : Bool) (num den : Nat) : Fraction where
  isNegative := isNegative
  value := Binary64.nearest isNegative num den
  isOutOfRange :=
    Binary64.overflow ≤ Binary64.nearestQuanta num den ∨
      (4 * num < (4 * normalQuanta - 1) * den ∧ num % den ≠ 0)

/-- How many places in front of the point or behind it make a number larger or smaller than all
those that can be used. -/
def placeLimit : Int := 1200

/-- The number that digits of a base denote, times a power of a second base whose exponent is as
given. The first base is a power of the second one or the same. -/
def ofDigits (isNegative : Bool) (digits : Nat) (base : Nat) (exponent : Int) : Fraction :=
  let leading := exponent + (Nat.toDigits base digits).length
  if digits = 0 then { isNegative, value := Binary64.zero isNegative }
  else if placeLimit < leading then
    { isNegative, value := .infinite isNegative, isOutOfRange := true }
  else if leading < -placeLimit then
    { isNegative, value := Binary64.zero isNegative, isOutOfRange := true }
  else if 0 ≤ exponent then
    ofRatio isNegative (digits * base ^ exponent.toNat * Binary64.unit) 1
  else ofRatio isNegative (digits * Binary64.unit) (base ^ (-exponent).toNat)

end Fraction

/-! ### Texts -/

/-- The sign at the front of a text, if it is a minus sign, and the rest. -/
def takeSign (text : List Char) : Bool × List Char :=
  match text with
  | '-' :: rest => (true, rest)
  | '+' :: rest => (false, rest)
  | rest => (false, rest)

/-- The digits at the front of a text in front of a point and behind it, and the rest. There are
none at all if there is only a point. -/
def takePlaces (isDigit : Char → Bool) (text : List Char) : List Char × List Char × List Char :=
  let whole := text.takeWhile isDigit
  let behind := text.dropWhile isDigit
  match behind with
  | '.' :: rest =>
    let fraction := rest.takeWhile isDigit
    if whole = [] ∧ fraction = [] then ([], [], text)
    else (whole, fraction, rest.dropWhile isDigit)
  | _ => (whole, [], behind)

/-- The exponent behind a letter in either case at the front of a text, and the rest. -/
def takeExponent (letter : Char) (text : List Char) : Int × List Char :=
  match text with
  | c :: rest =>
    let (isNegative, behind) := takeSign rest
    let digits := behind.takeWhile Char.isDigit
    if c.toLower = letter ∧ digits ≠ [] then
      let n : Int := digitsValue 0 digits
      (if isNegative then -n else n, behind.drop digits.length)
    else (0, text)
  | [] => (0, [])

/-- The number of decimal digits that a text begins with, if there is one, and the rest. -/
def takeDecimal? (isNegative : Bool) (text : List Char) : Option (Fraction × List Char) :=
  let (whole, fraction, rest) := takePlaces Char.isDigit text
  if whole = [] ∧ fraction = [] then none
  else
    let (exponent, rest) := takeExponent 'e' rest
    let digits := digitsValue 0 (whole ++ fraction)
    some (.ofDigits isNegative digits 10 (exponent - fraction.length), rest)

/-- The number of hexadecimal digits that a text begins with, if there is one, and the rest. -/
def takeHexadecimal? (isNegative : Bool) (text : List Char) : Option (Fraction × List Char) :=
  match text with
  | '0' :: x :: text =>
    let (whole, fraction, rest) := takePlaces isHexDigit text
    if x.toLower ≠ 'x' ∨ (whole = [] ∧ fraction = []) then none
    else
      let (exponent, rest) := takeExponent 'p' rest
      let digits := radixValue 16 (whole ++ fraction)
      some (.ofDigits isNegative digits 2 (exponent - 4 * fraction.length), rest)
  | _ => none

/-- The text behind a name in letters of either case at the front of a text. -/
def behindName? (name : String) (text : List Char) : Option (List Char) :=
  if name.toList.isPrefixOf (text.map Char.toLower) then some (text.drop name.length) else none

/-- The text behind what tells apart the values that are no numbers, which stands in parentheses. -/
def behindPayload (text : List Char) : List Char :=
  match text with
  | '(' :: rest =>
    match rest.dropWhile isNameChar with
    | ')' :: behind => behind
    | _ => text
  | _ => text

/-- The value that is not a finite number and whose name a text begins with, and the rest. -/
def takeNamed? (isNegative : Bool) (text : List Char) : Option (Fraction × List Char) :=
  let infinite : Fraction := { isNegative, value := .infinite isNegative }
  match behindName? "infinity" text, behindName? "inf" text, behindName? "nan" text with
  | some rest, _, _ => some (infinite, rest)
  | _, some rest, _ => some (infinite, rest)
  | _, _, some rest => some ({ isNegative, value := .nan }, behindPayload rest)
  | _, _, _ => none

/-- The number with a fraction that a text begins with behind blanks, and the rest; zero and the
whole text if there is none. -/
def takeFraction (text : List Char) : Fraction × List Char :=
  let (isNegative, body) := takeSign (text.dropWhile isNumberBlank)
  let found :=
    (takeNamed? isNegative body).or <|
      (takeHexadecimal? isNegative body).or (takeDecimal? isNegative body)
  found.getD ({}, text)

end RoutineTiming.Shell
