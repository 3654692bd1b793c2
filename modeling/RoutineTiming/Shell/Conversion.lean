import RoutineTiming.Decimal.Fixed
import RoutineTiming.Shell.Fraction

/-!
# Conversions

A conversion makes a text of a value, with the digits of a base, the precision and the width that it
asks for. Numbers with a fraction are rounded from their exact value, halves to the even digit.

## Main definitions

* `Shell.Conversion` : a conversion.
* `Shell.Conversion.filled`, `Shell.Conversion.filledNumber` : texts with a least width.
* `Shell.Conversion.signedText`, `Shell.Conversion.unsignedText` : whole numbers.
* `Shell.Conversion.fractionText` : numbers with a fraction.
-/

namespace RoutineTiming.Shell

/-- A conversion of a format. -/
structure Conversion where
  flags : List Char
  width : Nat
  precision : Option Nat
  kind : Char

namespace Conversion

/-- The conversion has a flag. -/
def has (c : Conversion) (flag : Char) : Bool := c.flags.contains flag

/-- A text filled up to the width. -/
def filled (c : Conversion) (body : List Char) : List Char :=
  let blanks := List.replicate (c.width - body.length) ' '
  if c.has '-' then body ++ blanks else blanks ++ body

/-- A number with what stands in front of its digits, filled up to the width, with zeros if that is
asked for. -/
def filledNumber (c : Conversion) (front digits : List Char) (mayHaveZeros : Bool) : List Char :=
  if c.has '0' && !c.has '-' && mayHaveZeros then
    front ++ List.replicate (c.width - front.length - digits.length) '0' ++ digits
  else c.filled (front ++ digits)

/-- What shows the sign of a number. -/
def sign (c : Conversion) (isNegative : Bool) : List Char :=
  if isNegative then ['-'] else if c.has '+' then ['+'] else if c.has ' ' then [' '] else []

/-- The digits of a whole number, at least as many as the precision. -/
def leastDigits (c : Conversion) (digits : List Char) : List Char :=
  match c.precision with
  | some p =>
    let digits := if p = 0 ∧ digits = ['0'] then [] else digits
    List.replicate (p - digits.length) '0' ++ digits
  | none => digits

/-- A whole number with a sign. -/
def signedText (c : Conversion) (n : Int) : List Char :=
  c.filledNumber (c.sign (n < 0)) (c.leastDigits (digitsOf n.natAbs)) c.precision.isNone

/-- A whole number without a sign, in the base of the conversion. -/
def unsignedText (c : Conversion) (n : Nat) : List Char :=
  let marked := c.has '#' && n ≠ 0
  match c.kind with
  | 'o' =>
    let digits := c.leastDigits (Nat.toDigits 8 n)
    let front := if c.has '#' && digits.head? ≠ some '0' then ['0'] else []
    c.filledNumber [] (front ++ digits) c.precision.isNone
  | 'x' =>
    c.filledNumber (if marked then ['0', 'x'] else []) (c.leastDigits (Nat.toDigits 16 n))
      c.precision.isNone
  | 'X' =>
    c.filledNumber (if marked then ['0', 'X'] else [])
      (c.leastDigits ((Nat.toDigits 16 n).map Char.toUpper)) c.precision.isNone
  | _ => c.filledNumber [] (c.leastDigits (digitsOf n)) c.precision.isNone

/-! ### Numbers with a fraction -/

/-- The power of ten of the leading digit of a positive ratio. -/
def leadingExponent (num den : Nat) : Int :=
  let guess : Int := (digitsOf num).length - (digitsOf den).length
  let reaches : Bool :=
    if 0 ≤ guess then decide (10 ^ guess.toNat * den ≤ num)
    else decide (den ≤ num * 10 ^ (-guess).toNat)
  if reaches then guess else guess - 1

/-- A positive ratio with a number of digits behind the leading one, as those digits and the power
of ten of the leading one. -/
def roundedDigits (places num den : Nat) : List Char × Int :=
  let exponent := leadingExponent num den
  let shift := (places : Int) - exponent
  let n :=
    if 0 ≤ shift then roundHalfEven (num * 10 ^ shift.toNat) den
    else roundHalfEven num (den * 10 ^ (-shift).toNat)
  let digits := digitsOf n
  if digits.length = places + 2 then (digits.dropLast, exponent + 1) else (digits, exponent)

/-- The digits of a fraction behind their point, which stands there only if it is asked for where
there are no digits. -/
def behindPoint (keepsPoint : Bool) (digits : List Char) : List Char :=
  if digits = [] ∧ !keepsPoint then [] else '.' :: digits

/-- An exponent with its sign, behind a letter. -/
def exponentText (letter : Char) (places : Nat) (exponent : Int) : List Char :=
  letter :: (if exponent < 0 then '-' else '+') :: zeroPadded places exponent.natAbs

/-- A ratio in the form with an exponent. -/
def withExponent (keepsPoint : Bool) (places num den : Nat) : List Char :=
  let (digits, exponent) : List Char × Int :=
    if num = 0 then (List.replicate (places + 1) '0', 0) else roundedDigits places num den
  digits.take 1 ++ behindPoint keepsPoint (digits.drop 1) ++ exponentText 'e' 2 exponent

/-- A ratio in the form without an exponent. -/
def withoutExponent (keepsPoint : Bool) (places num den : Nat) : List Char :=
  let text := placePoint places (roundHalfEven (num * 10 ^ places) den)
  if places = 0 ∧ keepsPoint then text ++ ['.'] else text

/-- A text of digits without the zeros at the end of its fraction. -/
def withoutZeros (text : List Char) : List Char :=
  if text.contains '.' then
    match text.reverse.dropWhile (· = '0') with
    | '.' :: rest => rest.reverse
    | rest => rest.reverse
  else text

/-- A ratio in the shorter of the two forms, with a number of digits that count. -/
def inShortForm (keepsZeros : Bool) (precision num den : Nat) : List Char :=
  let places := precision - 1
  let exponent : Int := if num = 0 then 0 else (roundedDigits places num den).2
  let trim (text : List Char) : List Char := if keepsZeros then text else withoutZeros text
  if -4 ≤ exponent ∧ exponent < precision then
    trim (withoutExponent keepsZeros (places - exponent).toNat num den)
  else
    let text := withExponent keepsZeros places num den
    trim (text.takeWhile (· ≠ 'e')) ++ text.dropWhile (· ≠ 'e')

/-- How many hexadecimal digits stand behind the leading one in the form with a power of two. -/
def hexPlaces : Nat := 13

/-- A number of quanta in the form with hexadecimal digits and a power of two, with as many digits
as given behind the leading one, or else as many as it has. -/
def inHexadecimal (keepsPoint : Bool) (precision : Option Nat) (quanta : Nat) : List Char :=
  let shift := quanta.log2 - 4 * hexPlaces
  let exponent : Int := if quanta = 0 then 0 else (max 1 (shift + 1) : Nat) - 1023
  let places := min (precision.getD hexPlaces) hexPlaces
  let n := roundHalfEven (quanta / 2 ^ shift) (16 ^ (hexPlaces - places))
  let digits := (Nat.toDigits 16 (n % 16 ^ places)).leftpad places '0'
  let fraction :=
    match precision with
    | some p => (digits.drop (digits.length - places)).rightpad p '0'
    | none => (digits.reverse.dropWhile (· = '0')).reverse
  Nat.toDigits 16 (n / 16 ^ places) ++ behindPoint keepsPoint fraction ++
    exponentText 'p' 1 exponent

/-- The text of a number with a fraction. -/
def fractionText (c : Conversion) (x : Fraction) : List Char :=
  let cased (text : List Char) : List Char :=
    if c.kind.isUpper then text.map Char.toUpper else text
  let sign := c.sign x.isNegative
  let precision := c.precision.getD 6
  match x.value with
  | .nan => c.filled (sign ++ cased ['n', 'a', 'n'])
  | .infinite _ => c.filled (sign ++ cased ['i', 'n', 'f'])
  | .finite _ quanta _ =>
    let (front, body) : List Char × List Char :=
      match c.kind.toLower with
      | 'a' => (['0', 'x'], inHexadecimal (c.has '#') c.precision quanta)
      | 'e' => ([], withExponent (c.has '#') precision quanta Binary64.unit)
      | 'g' => ([], inShortForm (c.has '#') (max precision 1) quanta Binary64.unit)
      | _ => ([], withoutExponent (c.has '#') precision quanta Binary64.unit)
    c.filledNumber (sign ++ cased front) (cased body) true

end Conversion

end RoutineTiming.Shell
