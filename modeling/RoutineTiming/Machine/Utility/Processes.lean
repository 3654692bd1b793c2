import RoutineTiming.Decimal.Basic
import RoutineTiming.Machine.Utility.Basic

/-!
# Utilities for processes

The utilities that let time pass, that show and change an environment, and that do next to nothing.

## Main definitions

* `Utility.sleep` : time.
* `Utility.env` : environments.
* `Utility.echo`, `Utility.nothing` : next to nothing.
-/

namespace RoutineTiming.Utility

/-- The seconds in a unit of time, by its letter. -/
def unitSeconds? : List Char → Option Nat
  | [] => some 1
  | ['s'] => some 1
  | ['m'] => some 60
  | ['h'] => some 3600
  | ['d'] => some 86400
  | _ => none

/-- The nanoseconds in an interval of time, which may have a unit. -/
def readInterval? (text : String) : Option Nat := do
  let isUnit (c : Char) : Bool := c.isAlpha
  let number := text.toList.takeWhile fun c => !isUnit c
  let seconds ← unitSeconds? (text.toList.dropWhile fun c => !isUnit c)
  let d ← Decimal.read? number
  let n := d.significand * seconds * 10 ^ 9
  return if 0 ≤ d.exponent then n * 10 ^ d.exponent.toNat else n / 10 ^ (-d.exponent).toNat

/-- The utility `sleep`. -/
def sleep : Utility Nat :=
  withOptions [] fun intervals => do
    match intervals.find? fun text => (readInterval? text).isNone with
    | some text => complainOfUse ("invalid time interval '" ++ text ++ "'")
    | none =>
      if intervals.isEmpty then complainOfUse "missing operand"
      else
        let time := (intervals.filterMap readInterval?).foldl (· + ·) 0
        modify fun world => { world with clock := world.clock + time }
        return 0

/-- An entry of an environment has a name. -/
def isNamed (name entry : String) : Bool := (name ++ "=").isPrefixOf entry

/-- An environment with one more entry. -/
def putVariable (environment : List String) (entry : String) : List String :=
  let name := String.ofList (entry.toList.takeWhile (· ≠ '='))
  if environment.any (isNamed name) then
    environment.map fun e => if isNamed name e then entry else e
  else environment ++ [entry]

/-- The value of a name in an environment. -/
def valueIn? (environment : List String) (name : String) : Option String :=
  (environment.find? (isNamed name)).map fun e => String.ofList (e.toList.drop (name.length + 1))

/-- The path in which programs are searched for if an environment has none. -/
def defaultSearchPath : String := "/bin:/usr/bin"

/-- The utility `env`, where programs are run as given. -/
def env (programs : String → Option Program) : Program := fun task world =>
  let (arguments, environment) :=
    match task.arguments with
    | "-i" :: rest => (rest, [])
    | "-" :: rest => (rest, [])
    | "-u" :: name :: rest => (rest, task.environment.filter fun e => !isNamed name e)
    | all => (all, task.environment)
  let isAssigned (text : String) : Bool := text.toList.contains '='
  let environment := (arguments.takeWhile isAssigned).foldl putVariable environment
  match arguments.dropWhile isAssigned with
  | [] => program (printText (String.join (environment.map (· ++ "\n"))) 0) task world
  | name :: rest =>
    let searchPath := (valueIn? environment "PATH").getD defaultSearchPath
    let result := do
      let path ← world.files.programPath task.process.directory searchPath name
      runOrInterpret programs path
        { task with title := name, arguments := rest, environment } world
    match result with
    | .ok ended => ended
    | .error fault =>
      let refuse : Utility Nat := do
        complain ("'" ++ name ++ "': " ++ fault.reason)
        return if fault.isMissing then 127 else 126
      program refuse task world

/-- The utility `echo`. -/
def echo : Utility Nat := do
  match (← read).arguments with
  | "-n" :: rest => printText (" ".intercalate rest) 0
  | all => printText (" ".intercalate all ++ "\n") 0

/-- The utility that does nothing but exit with a number. -/
def nothing (code : Nat) : Utility Nat := return code

end RoutineTiming.Utility
