import RoutineTiming.Text.Blank
import RoutineTiming.Text.Numeral
import RoutineTiming.Toml.Reading

/-!
# Dates and times in TOML

A moment is a date, a time of the day, or both with an optional offset. It is read only if it
exists in the calendar, and is kept as a normalized text: a capital `T` between date and time, at
most nine places of a second without zeros at their end, and an offset as `Z` or in hours and
minutes.

## Main definitions

* `Toml.readMoment?` : the normalized text of a moment.
-/

namespace RoutineTiming.Toml

/-- The number of days of a month. -/
def daysInMonth (year month : Nat) : Nat :=
  if month = 2 then
    if year % 4 = 0 ∧ (year % 100 ≠ 0 ∨ year % 400 = 0) then 29 else 28
  else if month = 4 ∨ month = 6 ∨ month = 9 ∨ month = 11 then 30
  else 31

/-- A date that exists, as its normalized text. -/
def takeDate : Reader (List Char) := fun text => do
  let (year, rest) ← takeDecimal 4 text
  let rest ← expect ['-'] rest
  let (month, rest) ← takeDecimal 2 rest
  let rest ← expect ['-'] rest
  let (day, rest) ← takeDecimal 2 rest
  if 1 ≤ month ∧ month ≤ 12 ∧ 1 ≤ day ∧ day ≤ daysInMonth year month then
    some (zeroPadded 4 year ++ '-' :: zeroPadded 2 month ++ '-' :: zeroPadded 2 day, rest)
  else
    none

/-- The places of a second behind the point, cut after nine and without zeros at their end; the
point is dropped with the last of them. -/
def fractionOf (digits : List Char) : List Char :=
  match dropTrailing (· = '0') (digits.take 9) with
  | [] => []
  | places => '.' :: places

/-- The fraction of a second, if one follows. -/
def takeFraction (text : List Char) : Option (List Char × List Char) :=
  match text with
  | '.' :: rest =>
    let digits := rest.takeWhile Char.isDigit
    if digits = [] then none else some (fractionOf digits, rest.dropWhile Char.isDigit)
  | _ => some ([], text)

/-- An hour and a minute of the day with a colon between them. -/
def takeHourAndMinute : Reader (List Char) := fun text => do
  let (hour, rest) ← takeDecimal 2 text
  let rest ← expect [':'] rest
  let (minute, rest) ← takeDecimal 2 rest
  if hour ≤ 23 ∧ minute ≤ 59 then
    some (zeroPadded 2 hour ++ ':' :: zeroPadded 2 minute, rest)
  else
    none

/-- A time of the day, as its normalized text; a minute may have a leap second. -/
def takeTime : Reader (List Char) := fun text => do
  let (clock, rest) ← takeHourAndMinute text
  let rest ← expect [':'] rest
  let (second, rest) ← takeDecimal 2 rest
  let (fraction, rest) ← takeFraction rest
  if second ≤ 60 then some (clock ++ ':' :: zeroPadded 2 second ++ fraction, rest) else none

/-- The offset of a time, if one follows; zero behind a minus sign is written with a plus. -/
def takeOffset (text : List Char) : Option (List Char × List Char) :=
  match text with
  | 'Z' :: rest => some (['Z'], rest)
  | 'z' :: rest => some (['Z'], rest)
  | '+' :: rest => (takeHourAndMinute rest).map fun (clock, rest) => ('+' :: clock, rest)
  | '-' :: rest =>
    (takeHourAndMinute rest).map fun (clock, rest) =>
      (if clock = "00:00".toList then '+' :: clock else '-' :: clock, rest)
  | _ => some ([], text)

/-- The time behind a date, if one follows a letter `T` or a space. -/
def takeTimeOfDate (text : List Char) : Option (List Char × List Char) :=
  match text with
  | c :: rest =>
    if c = 'T' ∨ c = 't' ∨ (c = ' ' ∧ rest.head?.any Char.isDigit) then do
      let (time, rest) ← takeTime rest
      let (offset, rest) ← takeOffset rest
      return ('T' :: time ++ offset, rest)
    else
      some ([], text)
  | [] => some ([], [])

/-- A date, a time of the day, or both, as the normalized text. -/
def readMoment? : Reader String := fun text =>
  match takeDate text with
  | some (date, rest) =>
    (takeTimeOfDate rest).map fun (time, rest) => (String.ofList (date ++ time), rest)
  | none => (takeTime text).map fun (time, rest) => (String.ofList time, rest)

end RoutineTiming.Toml
