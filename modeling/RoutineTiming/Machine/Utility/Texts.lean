import RoutineTiming.Machine.Utility.Basic

/-!
# Utilities for texts

The utility that prints whole files.

## Main definitions

* `Utility.copyTo` : what is left to read is written.
* `Utility.cat` : whole files.
-/

namespace RoutineTiming.Utility

/-- The file to which a channel leads, and how much of it was read or written. -/
def fileBehind? (channel : Channel) : Utility (Option (Place × Nat)) := do
  match channel.target with
  | .shared number =>
    match (← get).openFiles[number]? with
    | some (.file place offset _) => return some (place, offset)
    | _ => return none
  | _ => return none

/-- Something is left to read from a channel in the file to which another one leads. -/
def readsFrom (input output : Channel) : Utility Bool := do
  match ← fileBehind? input, ← fileBehind? output with
  | some (place, offset), some (target, _) =>
    return place = target && offset < ((← get).fileAt place).1.length
  | _, _ => return false

/-- What is left to read from a channel is written to another one. -/
def copyTo (output input : Channel) : Utility (Except SystemFault Unit) :=
  repeated (fun _ : Unit => do
    match ← takeBlock input with
    | .error fault => return .inr (.error fault)
    | .ok [] => return .inr (.ok ())
    | .ok bytes =>
      match ← writeTo output bytes with
      | .ok () => return .inl ()
      | .error fault =>
        complainOf "write error" fault
        throw (.exited 1)) ()

/-- The utility `cat`. -/
def cat : Utility Nat :=
  withOptions ['u'] fun paths => do
    let process := (← read).process
    match process.openChannel 1 with
    | .error fault =>
      complainOf "standard output" fault
      return 1
    | .ok output =>
      let results ← forFiles paths fun _ input => do
        if ← readsFrom input output then
          return .error (.described "input file is output file")
        else copyTo output input
      let readsInput := paths.isEmpty || paths.contains "-"
      if readsInput ∧ (process.channel? 0).isNone then
        complainOf "closing standard input" .badDescriptor
      return codeOf (results.all Option.isSome)

end RoutineTiming.Utility
