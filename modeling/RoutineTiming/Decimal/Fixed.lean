import RoutineTiming.Decimal.Basic

/-!
# Decimals with a fixed number of places

A binary64 number is written with a given number of places by rounding its exact value, a half
going to the even last digit. The sign of a negative zero is written, and the infinities and
not-a-number are written as `inf`, `-inf` and `NaN`.

## Main definitions

* `Binary64.toFixed` : the text with a fixed number of places.
-/

namespace RoutineTiming

/-- The digits of `n` with a point before the last `places` of them and at least one in front. -/
def placePoint (places n : Nat) : List Char :=
  let whole := digitsOf (n / 10 ^ places)
  if places = 0 then
    whole
  else
    let fraction := digitsOf (n % 10 ^ places)
    whole ++ '.' :: (List.replicate (places - fraction.length) '0' ++ fraction)

namespace Binary64

/-- A minus sign in front of the text of a negative number. -/
def withSign (negative : Bool) (body : List Char) : String :=
  String.ofList (if negative then '-' :: body else body)

/-- The number with `places` digits after the point, halves to the even last digit. -/
def toFixed (places : Nat) : Binary64 → String
  | .nan => "NaN"
  | .infinite negative => withSign negative ['i', 'n', 'f']
  | .finite negative quanta _ =>
    withSign negative (placePoint places (roundHalfEven (quanta * 10 ^ places) unit))

end Binary64

end RoutineTiming
