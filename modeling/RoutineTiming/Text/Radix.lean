/-!
# Digits of other bases

Digits above nine are the letters from `a` to `f` in either case.

## Main definitions

* `isOctalDigit`, `isHexDigit` : the digits of base eight and of base sixteen.
* `radixValue` : the number that digits of a base denote.
-/

namespace RoutineTiming

/-- A digit of base eight. -/
def isOctalDigit (c : Char) : Bool := '0' ≤ c && c ≤ '7'

/-- A digit of base sixteen. -/
def isHexDigit (c : Char) : Bool := c.isDigit || ('a' ≤ c.toLower && c.toLower ≤ 'f')

/-- The value of a digit of a base up to sixteen. -/
def radixDigit (c : Char) : Nat :=
  if c.isDigit then c.toNat - '0'.toNat else c.toLower.toNat - 'a'.toNat + 10

/-- The number that digits of a base denote, the leading one first. -/
def radixValue (base : Nat) (digits : List Char) : Nat :=
  digits.foldl (fun n c => base * n + radixDigit c) 0

end RoutineTiming
