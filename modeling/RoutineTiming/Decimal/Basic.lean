import RoutineTiming.Binary64.Arithmetic

/-!
# Decimal numbers

A decimal number is a natural number of digits scaled by a power of ten. This module reads one
from text and rounds it to the nearest binary64 number.

## Main definitions

* `Decimal` : the number `significand * 10 ^ exponent`.
* `Decimal.read?` : the decimal denoted by digits with an optional point and exponent.
* `Binary64.ofDecimal` : the nearest binary64 number.
* `Binary64.read?` : signed decimals and the names of the infinities and of not-a-number.
-/

namespace RoutineTiming

/-- The number `significand * 10 ^ exponent`. -/
structure Decimal where
  significand : Nat
  exponent : Int
  deriving DecidableEq, Repr

/-! ### Digits -/

/-- The value of a string of decimal digits, read from the left onto `start`. -/
def digitsValue (start : Nat) (digits : List Char) : Nat :=
  digits.foldl (fun n c => 10 * n + (c.toNat - '0'.toNat)) start

/-- The decimal digits of a natural number, the leading one first. -/
def digitsOf (n : Nat) : List Char := Nat.toDigits 10 n

namespace Decimal

/-- The exponent that follows the letter `e`: an optional sign and at least one digit. -/
def readExponent? (text : List Char) : Option Int :=
  let unsigned (digits : List Char) : Option Nat :=
    if digits ≠ [] ∧ digits.all Char.isDigit then some (digitsValue 0 digits) else none
  match text with
  | '-' :: digits => (unsigned digits).map fun n => -(n : Int)
  | '+' :: digits => (unsigned digits).map Int.ofNat
  | digits => (unsigned digits).map Int.ofNat

/-- The decimal written as digits with an optional point among or beside them and an optional
exponent; at least one digit stands before the exponent. -/
def read? (text : List Char) : Option Decimal :=
  let whole := text.takeWhile Char.isDigit
  let afterWhole := text.dropWhile Char.isDigit
  let (fraction, rest) : List Char × List Char :=
    match afterWhole with
    | '.' :: tail => (tail.takeWhile Char.isDigit, tail.dropWhile Char.isDigit)
    | tail => ([], tail)
  if whole = [] ∧ fraction = [] then
    none
  else
    let significand := digitsValue 0 (whole ++ fraction)
    let shift : Int := -(fraction.length : Int)
    match rest with
    | [] => some ⟨significand, shift⟩
    | c :: tail =>
      if c = 'e' ∨ c = 'E' then
        (readExponent? tail).map fun e => ⟨significand, e + shift⟩
      else
        none

end Decimal

namespace Binary64

/-- The number nearest to a decimal. Decimals above `10 ^ 400` or below `10 ^ -400` are settled
by their number of digits alone. -/
def ofDecimal (negative : Bool) (d : Decimal) : Binary64 :=
  let leading := d.exponent + (digitsOf d.significand).length
  if d.significand = 0 ∨ leading < -400 then
    zero negative
  else if 400 < leading then
    .infinite negative
  else if 0 ≤ d.exponent then
    nearest negative (d.significand * 10 ^ d.exponent.toNat * unit) 1
  else
    nearest negative (d.significand * unit) (10 ^ (-d.exponent).toNat)

instance : OfScientific Binary64 where
  ofScientific significand negativeExponent exponent :=
    ofDecimal false ⟨significand, if negativeExponent then -(exponent : Int) else exponent⟩

/-- The number written as a decimal or as `inf`, `infinity` or `nan` in letters of either case,
with an optional sign in front. -/
def read? (text : String) : Option Binary64 :=
  let unsigned (negative : Bool) (body : List Char) : Option Binary64 :=
    let name := String.ofList (body.map Char.toLower)
    if name = "inf" ∨ name = "infinity" then
      some (.infinite negative)
    else if name = "nan" then
      some .nan
    else
      (Decimal.read? body).map (ofDecimal negative)
  match text.toList with
  | '-' :: body => unsigned true body
  | '+' :: body => unsigned false body
  | body => unsigned false body

end Binary64

end RoutineTiming
