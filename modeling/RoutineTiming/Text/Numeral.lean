import RoutineTiming.Decimal.Basic

/-!
# Whole numbers in text

A whole number is written in decimal without leading zeros. It is read from one or more decimal
digits, leading zeros allowed, behind an optional plus sign, and is refused above a given limit.

## Main definitions

* `numeral` : the decimal text of a natural number.
* `readNumeral?` : the number denoted by a text, up to a limit.
* `maxWord` : the largest number of 64 bits.
* `zeroPadded`, `integerDigits` : digits up to a width, and digits behind a sign.
-/

namespace RoutineTiming

/-- The largest number of 64 bits. -/
def maxWord : Nat := 2 ^ 64 - 1

/-- The decimal text of a natural number. -/
def numeral (n : Nat) : String := String.ofList (digitsOf n)

/-- The digits of a number with zeros in front up to a width. -/
def zeroPadded (width n : Nat) : List Char :=
  let digits := digitsOf n
  List.replicate (width - digits.length) '0' ++ digits

/-- The digits of a whole number, behind a minus sign if it is negative. -/
def integerDigits (n : Int) : List Char :=
  if n < 0 then '-' :: digitsOf n.natAbs else digitsOf n.natAbs

/-- The number written as an optional plus sign and decimal digits, if it is at most `limit`. -/
def readNumeral? (limit : Nat) (text : String) : Option Nat :=
  let digits :=
    match text.toList with
    | '+' :: digits => digits
    | digits => digits
  if digits ≠ [] ∧ digits.all Char.isDigit then
    let n := digitsValue 0 digits
    if n ≤ limit then some n else none
  else
    none

end RoutineTiming
