import RoutineTiming.Decimal.Shortest
import RoutineTiming.Text.Numeral
import RoutineTiming.Text.Quoted

/-!
# TOML values

The values that a TOML document is made of. A table lists its entries in the order of the document,
and a date or time is kept as its normalized text.

## Main definitions

* `Toml.Value` : the values.
* `Toml.Value.description` : a value as it is named in messages.
-/

namespace RoutineTiming.Toml

/-- A value of a TOML document. -/
inductive Value where
  | string (text : String)
  | integer (n : Int)
  | float (x : Binary64)
  | boolean (b : Bool)
  /-- A date, a time or both, by its normalized text. -/
  | moment (text : String)
  | array (elements : List Value)
  | table (entries : List (String × Value))

/-- Numbers in messages are always written positionally. -/
def messageLayout : DecimalLayout := ⟨none, none⟩

/-- The text of a floating point number in messages. -/
def floatText : Binary64 → String
  | .nan => "NaN"
  | .infinite negative => if negative then "-inf" else "inf"
  | .finite negative quanta _ =>
    let digits := String.ofList (messageLayout.write (Binary64.shortest quanta))
    if negative then "-" ++ digits else digits

/-- A value as it is named in messages. -/
def Value.description : Value → String
  | .string text => "string " ++ quoted text
  | .integer n => "integer \x60" ++ String.ofList (integerDigits n) ++ "\x60"
  | .float x => "floating point \x60" ++ floatText x ++ "\x60"
  | .boolean b => "boolean \x60" ++ (if b then "true" else "false") ++ "\x60"
  | .moment _ => "map"
  | .array _ => "sequence"
  | .table _ => "map"

end RoutineTiming.Toml
