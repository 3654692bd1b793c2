import RoutineTiming.Decimal.Fixed
import RoutineTiming.Measurement
import RoutineTiming.Text.Numeral

/-!
# Magnitudes in words

Sizes and times are shown as whole numbers with a one-letter unit: micro, milli, none, kilo or
mega. The scaled number is cut off rather than rounded. Cells of a matrix show whole microseconds.

## Main definitions

* `Magnitude` : the units and their letters.
* `humanMagnitude` : a number in the unit that suits it.
* `wholeMicroseconds` : seconds as whole microseconds.
* `progressLine` : the summary of one finished cell.
-/

namespace RoutineTiming

/-- The units in which a number is shown. -/
inductive Magnitude where
  | micro
  | milli
  | one
  | kilo
  | mega
  deriving DecidableEq, Repr

namespace Magnitude

/-- The letter of the unit. -/
def letter : Magnitude → String
  | .micro => "u"
  | .milli => "m"
  | .one => ""
  | .kilo => "k"
  | .mega => "M"

/-- The unit that suits a number: micro below a thousandth, milli below one, mega from a million
on, kilo from a thousand on, and none for all else, not-a-number included. -/
def of (x : Binary64) : Magnitude :=
  if x < 1e-3 then .micro
  else if x < 1 then .milli
  else if (1e6 : Binary64) ≤ x then .mega
  else if (1e3 : Binary64) ≤ x then .kilo
  else .one

/-- The number counted in the unit. -/
def scale (x : Binary64) : Magnitude → Binary64
  | .micro => x * 1e6
  | .milli => x * 1e3
  | .one => x
  | .kilo => x / 1e3
  | .mega => x / 1e6

end Magnitude

/-- The number of whole units of a number. A billionth is added before the fraction is cut off, to
make up for scaling errors such as `0.0009 * 10 ^ 6 = 899.99…`. -/
def wholeUnits (x : Binary64) : Binary64 :=
  (Magnitude.scale x (Magnitude.of x) + 1e-9).floor

/-- A number as whole units with the letter of the unit that suits it. -/
def humanMagnitude (x : Binary64) : String :=
  (wholeUnits x).toFixed 0 ++ (Magnitude.of x).letter

/-- Seconds as whole microseconds. -/
def wholeMicroseconds (seconds : Binary64) : String := (seconds * 1e6).toFixed 0 ++ "us"

/-- The summary of a finished cell. -/
def progressLine (size : Nat) (result : CellResult) : String :=
  humanMagnitude (Binary64.ofNat size) ++ ": " ++
    humanMagnitude result.realPerIteration ++ "s real, " ++
    humanMagnitude result.userPerIteration ++ "s user per iteration (" ++
    result.rawReal.toFixed 3 ++ "s raw, " ++ numeral result.iterations ++ " iterations)"

end RoutineTiming
