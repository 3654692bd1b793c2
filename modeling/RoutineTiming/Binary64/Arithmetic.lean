import RoutineTiming.Binary64.Basic

/-!
# Arithmetic on binary64 numbers

Sum, difference, product, quotient and floor of binary64 numbers, each the exact result rounded
once. Zeros and infinities carry signs: a product or quotient is negative when exactly one operand
is, and a sum that cancels is positive zero unless both operands are negative.

## Main definitions

* The instances of `Add`, `Sub`, `Mul`, `Div`, `Neg`, `OfNat` for `Binary64`.
* `Binary64.ofNat` : the number nearest to a natural number.
* `Binary64.floor` : the largest whole number that is not above.
* `Binary64.sum` : a list added from left to right.
-/

namespace RoutineTiming.Binary64

/-- The number nearest to a natural number. -/
def ofNat (n : Nat) : Binary64 := nearest false (n * unit) 1

instance (n : Nat) : OfNat Binary64 n := ⟨ofNat n⟩

/-- The number with the other sign. -/
protected def neg : Binary64 → Binary64
  | .nan => .nan
  | .infinite negative => .infinite !negative
  | .finite negative quanta h => .finite (!negative) quanta h

instance : Neg Binary64 := ⟨Binary64.neg⟩

/-- The sum, rounded once. -/
protected def add : Binary64 → Binary64 → Binary64
  | .nan, _ => .nan
  | _, .nan => .nan
  | .infinite a, .infinite b => if a = b then .infinite a else .nan
  | .infinite a, .finite .. => .infinite a
  | .finite .., .infinite b => .infinite b
  | .finite a p _, .finite b q _ =>
    let sum := signed a p + signed b q
    if sum = 0 then zero (a && b) else nearest (sum < 0) sum.natAbs 1

instance : Add Binary64 := ⟨Binary64.add⟩

instance : Sub Binary64 := ⟨fun x y => x + -y⟩

/-- The product, rounded once. -/
protected def mul : Binary64 → Binary64 → Binary64
  | .nan, _ => .nan
  | _, .nan => .nan
  | .infinite a, .infinite b => .infinite (a != b)
  | .infinite a, .finite b q _ => if q = 0 then .nan else .infinite (a != b)
  | .finite a p _, .infinite b => if p = 0 then .nan else .infinite (a != b)
  | .finite a p _, .finite b q _ => nearest (a != b) (p * q) unit

instance : Mul Binary64 := ⟨Binary64.mul⟩

/-- The quotient, rounded once; a number other than zero divided by zero is infinite. -/
protected def div : Binary64 → Binary64 → Binary64
  | .nan, _ => .nan
  | _, .nan => .nan
  | .infinite _, .infinite _ => .nan
  | .infinite a, .finite b _ _ => .infinite (a != b)
  | .finite a _ _, .infinite b => zero (a != b)
  | .finite a p _, .finite b q _ =>
    if q = 0 then
      if p = 0 then .nan else .infinite (a != b)
    else
      nearest (a != b) (p * unit) q

instance : Div Binary64 := ⟨Binary64.div⟩

/-- The largest whole number that is not above the given one. -/
def floor : Binary64 → Binary64
  | .nan => .nan
  | .infinite negative => .infinite negative
  | .finite false quanta _ => nearest false (quanta / unit * unit) 1
  | .finite true quanta _ => nearest true ((quanta + unit - 1) / unit * unit) 1

/-- The numbers added from left to right; adding nothing gives negative zero, which leaves every
number as it is. -/
def sum (xs : List Binary64) : Binary64 := xs.foldl (· + ·) (zero true)

end RoutineTiming.Binary64
