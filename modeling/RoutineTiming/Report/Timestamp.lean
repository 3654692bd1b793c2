import RoutineTiming.Text.Numeral

/-!
# Time stamps

A moment is counted in seconds from the beginning of 1970 in UTC, with nanoseconds, of which a
billion or more mean a leap second. It is written as a date and a time of the day with the offset
`+00:00`, and with three, six or nine digits of the second where that many are needed.

## Main definitions

* `Timestamp` : a moment.
* `civilDate` : year, month and day of a day count.
* `Timestamp.text` : the written form.
-/

namespace RoutineTiming

/-- A moment in UTC. -/
structure Timestamp where
  /-- Seconds from the beginning of 1970. -/
  seconds : Int
  /-- Nanoseconds within the second; a billion or more within a leap second. -/
  nanoseconds : Nat
  deriving DecidableEq, Repr

/-- Year, month and day of a day, counted from the beginning of 1970. The years of the computation
begin in March, and 400 of them have 146097 days. -/
def civilDate (days : Int) : Int × Nat × Nat :=
  let shifted := days + 719468
  let era := shifted / 146097
  let dayOfEra := (shifted % 146097).toNat
  let yearOfEra :=
    (dayOfEra - dayOfEra / 1460 + dayOfEra / 36524 - dayOfEra / 146096) / 365
  let dayOfYear := dayOfEra - (365 * yearOfEra + yearOfEra / 4 - yearOfEra / 100)
  let marchMonth := (5 * dayOfYear + 2) / 153
  let day := dayOfYear - (153 * marchMonth + 2) / 5 + 1
  let month := if marchMonth < 10 then marchMonth + 3 else marchMonth - 9
  let year := era * 400 + yearOfEra
  (if month ≤ 2 then year + 1 else year, month, day)

/-- A year: four digits, and a sign in front of a year before 0 or after 9999. -/
def yearText (year : Int) : List Char :=
  let digits := zeroPadded 4 year.natAbs
  if year < 0 then '-' :: digits
  else if 9999 < year then '+' :: digits
  else digits

/-- The fraction of a second in as few groups of three digits as it needs. -/
def fractionText (nanoseconds : Nat) : List Char :=
  if nanoseconds = 0 then []
  else if nanoseconds % 1000000 = 0 then '.' :: zeroPadded 3 (nanoseconds / 1000000)
  else if nanoseconds % 1000 = 0 then '.' :: zeroPadded 6 (nanoseconds / 1000)
  else '.' :: zeroPadded 9 nanoseconds

/-- The moment as date, time of the day and offset. -/
def Timestamp.text (t : Timestamp) : String :=
  let (year, month, day) := civilDate (t.seconds / 86400)
  let secondOfDay := (t.seconds % 86400).toNat
  let second := secondOfDay % 60 + t.nanoseconds / 1000000000
  String.ofList
    (yearText year ++ '-' :: zeroPadded 2 month ++ '-' :: zeroPadded 2 day ++
      'T' :: zeroPadded 2 (secondOfDay / 3600) ++ ':' :: zeroPadded 2 (secondOfDay / 60 % 60) ++
      ':' :: zeroPadded 2 second ++ fractionText (t.nanoseconds % 1000000000) ++
      ['+', '0', '0', ':', '0', '0'])

end RoutineTiming
