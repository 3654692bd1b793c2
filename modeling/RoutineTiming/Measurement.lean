import RoutineTiming.Binary64.Arithmetic

/-!
# Measurements and their reduction

One invocation of a routine gives a measurement, the repetitions at one iteration count give
samples, and the samples are reduced to the cost of one iteration, net of startup overhead.

## Main definitions

* `Duration` : the length of an invocation in nanoseconds.
* `Measurement`, `Samples` : the outcome of one invocation, and of all repetitions.
* `Statistic.reduce` : the mean or the minimum of a list of numbers.
* `CellResult`, `Samples.aggregate` : the cost of one iteration.
-/

namespace RoutineTiming

/-- A length of time in nanoseconds, less than `2 ^ 64` seconds. -/
structure Duration where
  nanoseconds : Nat
  bounded : nanoseconds < 2 ^ 64 * 10 ^ 9

namespace Duration

/-- A length of time from its nanoseconds; the longest one stands for all that are longer. -/
def ofNanoseconds (n : Nat) : Duration :=
  ⟨Nat.min n (2 ^ 64 * 10 ^ 9 - 1), by
    have : Nat.min n (2 ^ 64 * 10 ^ 9 - 1) ≤ 2 ^ 64 * 10 ^ 9 - 1 := Nat.min_le_right _ _
    omega⟩

/-- The time in seconds: the whole seconds plus the remaining nanoseconds divided by `10 ^ 9`. -/
def seconds (d : Duration) : Binary64 :=
  Binary64.ofNat (d.nanoseconds / 10 ^ 9) +
    Binary64.ofNat (d.nanoseconds % 10 ^ 9) / Binary64.ofNat (10 ^ 9)

end Duration

/-- The outcome of one invocation of a routine. -/
structure Measurement where
  /-- The value that the routine printed. -/
  value : String
  /-- Seconds for the whole process. -/
  real : Binary64
  /-- Seconds that the routine reports for its inner loop. -/
  user : Binary64
  /-- The lines printed before the value. -/
  diagnostics : List String
  deriving DecidableEq

/-- All repetitions of one routine at one size and iteration count. -/
structure Samples where
  real : List Binary64 := []
  user : List Binary64 := []
  lastValue : String := ""
  deriving DecidableEq

/-- The samples with one more measurement. -/
def Samples.push (samples : Samples) (m : Measurement) : Samples where
  real := samples.real ++ [m.real]
  user := samples.user ++ [m.user]
  lastValue := m.value

/-- How samples are reduced to one number. -/
inductive Statistic where
  | mean
  | min
  deriving DecidableEq, Repr

namespace Statistic

/-- The name of the statistic. -/
def name : Statistic → String
  | .mean => "mean"
  | .min => "min"

/-- The samples reduced to one number; no samples reduce to zero. -/
def reduce (statistic : Statistic) (samples : List Binary64) : Binary64 :=
  if samples = [] then
    0
  else
    match statistic with
    | .mean => Binary64.sum samples / Binary64.ofNat samples.length
    | .min => samples.foldl Binary64.min (.infinite false)

end Statistic

/-- The cost of one iteration of a routine at one size. -/
structure CellResult where
  iterations : Nat
  /-- Reduced seconds of one whole invocation, overhead included. -/
  rawReal : Binary64
  realPerIteration : Binary64
  userPerIteration : Binary64
  value : String
  /-- Whether the value is the expected one, if one is known. -/
  verified : Option Bool
  deriving DecidableEq

/-- The samples reduced to the cost of one iteration. The startup overhead is taken off the real
time, which does not fall below zero. -/
def Samples.aggregate (samples : Samples) (iterations : Nat) (initTime : Binary64)
    (statistic : Statistic) : CellResult :=
  let rawReal := statistic.reduce samples.real
  let divisor := Binary64.ofNat (Nat.max iterations 1)
  { iterations
    rawReal
    realPerIteration := Binary64.max (rawReal - initTime) 0 / divisor
    userPerIteration := statistic.reduce samples.user / divisor
    value := samples.lastValue
    verified := none }

end RoutineTiming
