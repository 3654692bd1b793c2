import RoutineTiming.Shell.Builtin.Jobs
import RoutineTiming.Shell.Builtin.Names
import RoutineTiming.Shell.Builtin.Output
import RoutineTiming.Shell.Builtin.Places
import RoutineTiming.Shell.Builtin.Processes
import RoutineTiming.Shell.Condition

/-!
# Builtins

The builtins that run no commands themselves, by their names.

## Main definitions

* `Shell.plainBuiltin?` : the builtin of a name.
-/

namespace RoutineTiming.Shell

/-- The builtin that does nothing, with a status. -/
def runNothing (status : Nat) : Builtin := fun _ => return status

/-- The builtin of a name, if there is one that runs no commands. -/
def plainBuiltin? (name : String) : Option Builtin :=
  match name with
  | ":" => some (runNothing 0)
  | "true" => some (runNothing 0)
  | "false" => some (runNothing 1)
  | "echo" => some runEcho
  | "printf" => some runPrintf
  | "test" => some runTest
  | "[" => some runBracket
  | "read" => some runRead
  | "export" => some runExport
  | "readonly" => some runReadonly
  | "local" => some runLocal
  | "unset" => some runUnset
  | "set" => some runSet
  | "shift" => some runShift
  | "getopts" => some runGetopts
  | "alias" => some runAlias
  | "unalias" => some runUnalias
  | "type" => some runType
  | "command" => some runCommand
  | "hash" => some runHash
  | "cd" => some runCd
  | "chdir" => some runCd
  | "pwd" => some runPwd
  | "umask" => some runUmask
  | "trap" => some runTrap
  | "kill" => some runKill
  | "wait" => some runWait
  | "times" => some runTimes
  | _ => none

end RoutineTiming.Shell
