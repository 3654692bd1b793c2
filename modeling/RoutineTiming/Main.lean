import RoutineTiming.CommandLine.Program
import RoutineTiming.Machine.Standard

/-!
# The command line program

The outer layer of the program: it reads the arguments, the variables, the time and the files that a
plan mentions, hands them to `RoutineTiming.runProgram`, and writes what that gives. The processes
of a plan run on a `RoutineTiming.Machine` with these files.
-/

namespace RoutineTiming.Main

/-- The texts of the program in place of those of libraries. -/
def wording : Wording where
  textReport _ := "TOML parse error"
  help := "Usage: rtbench [OPTIONS]\n"
  usage _ := "error: wrong arguments\n"
  crash := "error: a table is too wide\n"

/-- The text of a file, empty if it cannot be read. -/
def textOf (path : String) : IO String := do
  try
    IO.FS.readFile path
  catch _ =>
    return ""

/-- A file with its bytes under its own path, if it can be read. -/
def fileAt (path : String) : IO (List (String × List UInt8)) := do
  try
    let bytes ← IO.FS.readBinFile path
    return [(path, bytes.toList)]
  catch _ =>
    return []

/-- The variables in the environment of a process, which are separated by NUL. -/
def variablesOf (environment : String) : List (String × String) :=
  (environment.splitOn "\x00").filterMap fun entry =>
    match entry.splitOn "=" with
    | name :: value :: more => some (name, "=".intercalate (value :: more))
    | _ => none

/-- The number of hundredths in a text of seconds with two places. -/
def hundredths (text : String) : Nat :=
  digitsValue 0 (text.toList.filter Char.isDigit)

/-- The moment given by the statistics of the system and the time since it was started. -/
def momentOf (statistics uptime : String) : Timestamp :=
  let boot := (statistics.splitOn "btime ")[1]?.map fun rest =>
    digitsValue 0 (rest.toList.takeWhile Char.isDigit)
  let since := hundredths (((uptime.splitOn " ").head?).getD "")
  ⟨(boot.getD 0 : Nat) + since / 100, since % 100 * 10000000⟩

/-- The files that a plan in given files mentions: arguments of the runtime, and files of
requirements. -/
def mentionedFiles (plan : Plan) : List String :=
  plan.runtime.args ++ plan.optional.entries.filterMap fun e => e.2.file

/-- The files that a request needs: the plan, and the files that it mentions. -/
def filesOf (request : Option Request) : IO (List (String × List UInt8)) := do
  match request with
  | some (.measure options) =>
    let own ← fileAt options.plan
    match Plan.load (Machine.standard own []).files options.plan with
    | .ok plan =>
      let mentioned ← (mentionedFiles plan).mapM fileAt
      return own ++ mentioned.flatten
    | .error _ => return own
  | _ => return []

end RoutineTiming.Main

open RoutineTiming in
/-- The program: it exits with the number that `runProgram` gives. -/
def main (args : List String) : IO UInt32 := do
  let environment := Main.variablesOf (← Main.textOf "/proc/self/environ")
  let now := Main.momentOf (← Main.textOf "/proc/stat") (← Main.textOf "/proc/uptime")
  let files ← Main.filesOf (readRequest args (lastValue? environment))
  let machine := Machine.standard files environment
  let surroundings : Surroundings Machine :=
    { files := machine.files, fileExists := fun m => m.files.exists?,
      environment := lastValue? environment, launcher := Machine.launch, start := machine, now,
      wording := Main.wording }
  let ended := runProgram args surroundings
  (← IO.getStdout).putStr ended.printed.stdout
  (← IO.getStderr).putStr ended.printed.stderr
  return UInt32.ofNat ended.code
