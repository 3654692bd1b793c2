import RoutineTiming.Decimal.Fixed

/-!
# Shortest decimals

The decimal that stands for a binary64 number has the fewest significant digits that read back as
the number, and of the decimals with that many digits it is the nearest one. It is found by trying
the two neighbours of the exact value on ever finer decimal grids.

## Main definitions

* `Binary64.shortest` : the significand and exponent of the shortest decimal.
* `DecimalLayout` : the choices of a format between positional and exponential notation.
* `DecimalLayout.write` : a decimal in a given layout.
-/

namespace RoutineTiming

namespace Decimal

/-- The decimal without zeros at the end of its significand. -/
def strip (d : Decimal) : Decimal :=
  if d.significand = 0 then
    ⟨0, 0⟩
  else
    let zeros := ((digitsOf d.significand).reverse.takeWhile (· = '0')).length
    ⟨d.significand / 10 ^ zeros, d.exponent + zeros⟩

end Decimal

namespace Binary64

/-- The exact value of a number of quanta: a quantum is `5¹⁰⁷⁴ * 10⁻¹⁰⁷⁴`. -/
def exactDecimal (quanta : Nat) : Decimal :=
  ⟨quanta * 5 ^ quantumExponent, -(quantumExponent : Int)⟩

/-- The decimals on the grid of `count` significant digits just below and just above a value,
the nearer one first and an exact tie to the even one. -/
def neighbours (exact : Decimal) (count : Nat) : List Decimal :=
  let dropped := (digitsOf exact.significand).length - count
  let grid := 10 ^ dropped
  let below := exact.significand / grid
  let rest := exact.significand % grid
  let exponent := exact.exponent + dropped
  if rest = 0 then
    [⟨below, exponent⟩]
  else if 2 * rest < grid ∨ (2 * rest = grid ∧ below % 2 = 0) then
    [⟨below, exponent⟩, ⟨below + 1, exponent⟩]
  else
    [⟨below + 1, exponent⟩, ⟨below, exponent⟩]

/-- The first decimal on the grids of `count`, `count + 1`, … digits that reads back as the number
of quanta; after `tries` grids the exact value. -/
def searchShortest (quanta : Nat) (exact : Decimal) : (tries count : Nat) → Decimal
  | 0, _ => exact
  | tries + 1, count =>
    let readsBack (d : Decimal) : Bool :=
      match ofDecimal false d with
      | .finite _ q _ => q = quanta
      | _ => false
    match (neighbours exact count).find? readsBack with
    | some d => d
    | none => searchShortest quanta exact tries (count + 1)

/-- The shortest decimal that reads back as a number of quanta. -/
def shortest (quanta : Nat) : Decimal :=
  (searchShortest quanta (exactDecimal quanta) 17 1).strip

end Binary64

/-! ### Layout -/

/-- The choices of a number format: which powers of ten of the leading digit are written
positionally. A bound that is left out is no bound. -/
structure DecimalLayout where
  /-- The least power of ten of the leading digit that is written positionally. -/
  leastPositional : Option Int
  /-- The first power of ten of the leading digit that is too large for it. -/
  firstExponential : Option Int

namespace DecimalLayout

/-- The leading digit stands at a power of ten that the layout writes positionally. -/
def isPositional (layout : DecimalLayout) (power : Int) : Bool :=
  layout.leastPositional.all (· ≤ power) && layout.firstExponential.all (power < ·)

/-- The digits written out with a point and at least one digit on each side of it. -/
def positional (digits : List Char) (power : Int) : List Char :=
  if power < 0 then
    ['0', '.'] ++ List.replicate (-power - 1).toNat '0' ++ digits
  else
    let whole := power.toNat + 1
    let padded := digits ++ List.replicate (whole + 1 - digits.length) '0'
    padded.take whole ++ '.' :: padded.drop whole

/-- One digit before the point, the rest after it, and the power of ten with its sign. -/
def exponential (digits : List Char) (power : Int) : List Char :=
  let mantissa :=
    match digits with
    | lead :: next :: rest => lead :: '.' :: next :: rest
    | short => short
  mantissa ++ ['e', if power < 0 then '-' else '+'] ++ digitsOf power.natAbs

/-- A decimal in the layout. -/
def write (layout : DecimalLayout) (d : Decimal) : List Char :=
  let digits := digitsOf d.significand
  let power := d.exponent + digits.length - 1
  if layout.isPositional power then positional digits power else exponential digits power

end DecimalLayout

end RoutineTiming
