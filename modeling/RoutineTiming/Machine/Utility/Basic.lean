import RoutineTiming.Machine.Process

/-!
# Utilities

A utility is a program that reads files and channels, writes to channels, and exits with a number.
Its complaints begin with the name under which it was started.

## Main definitions

* `Utility` : what a utility does.
* `Utility.program` : a utility as a program.
* `Utility.printAll`, `Utility.complain` : its output.
* `Utility.takeBlock`, `Utility.forFiles` : its input.
* `Utility.withOptions` : its options.
-/

namespace RoutineTiming

/-- What a utility does, unless a signal ends it. -/
abbrev Utility := ReaderT Task (ExceptT ExitStatus (StateM World))

namespace Utility

/-- A utility as a program; its result is the number with which it exits. -/
def program (utility : Utility Nat) : Program := fun task world =>
  match (utility.run task).run world with
  | (.ok code, world) => (.exited code, world)
  | (.error status, world) => (status, world)

/-- Steps repeated until one of them gives a result; no utility that ends repeats as many. -/
def repeated {α β : Type} (step : α → Utility (α ⊕ β)) (start : α) : Utility β :=
  go (2 ^ 60) start
where
  /-- At most as many steps as given. -/
  go : Nat → α → Utility β
    | 0, _ => throw (.signaled 9 false)
    | n + 1, a => do
      match ← step a with
      | .inl next => go n next
      | .inr result => return result

/-! ### Output -/

/-- Bytes are written to a channel. If a signal comes with the refusal, it ends the utility, unless
the utility is to ignore it. -/
def writeTo (channel : Channel) (bytes : List UInt8) : Utility (Except SystemFault Unit) := do
  let process := (← read).process
  let (result, world) := (← get).write channel bytes
  set world
  match result with
  | .ok () => return result
  | .error fault =>
    match fault.signal? with
    | some signal =>
      if process.ignored.contains signal then return result else throw (.signaled signal false)
    | none => return result

/-- Bytes are written to the channel with a number. -/
def write (number : Nat) (bytes : List UInt8) : Utility (Except SystemFault Unit) := do
  match (← read).process.openChannel number with
  | .ok channel => writeTo channel bytes
  | .error fault => return .error fault

/-- A complaint. -/
def complain (text : String) : Utility Unit := do
  let _ ← write 2 (textBytes ((← read).title ++ ": " ++ text ++ "\n"))

/-- A complaint about something, for the reason of the system. -/
def complainOf (subject : String) (fault : SystemFault) : Utility Unit :=
  complain (subject ++ ": " ++ fault.reason)

/-- Bytes are printed, and the number is the one with which the utility exits, unless they could not
be printed. -/
def printAll (bytes : List UInt8) (code : Nat) : Utility Nat := do
  if bytes.isEmpty then return code
  match ← write 1 bytes with
  | .ok () => return code
  | .error fault =>
    complainOf "write error" fault
    return 1

/-- A text is printed. -/
def printText (text : String) (code : Nat) : Utility Nat := printAll (textBytes text) code

/-! ### Input -/

/-- The channel from which a file is read, where a dash stands for the standard input. -/
def openInput (path : String) : Utility (Except SystemFault Channel) := do
  let process := (← read).process
  if path = "-" then return process.openChannel 0
  else
    match process.openFile .read path (← get) with
    | .error fault => return .error fault
    | .ok (channel, world) =>
      set world
      return .ok channel

/-- How many bytes a utility reads at once. -/
def blockSize : Nat := 8192

/-- The next bytes of a channel, none at its end. -/
def takeBlock (channel : Channel) : Utility (Except SystemFault (List UInt8)) := do
  match (← get).takeBlock channel blockSize with
  | .ok (bytes, world) =>
    set world
    return .ok bytes
  | .error fault => return .error fault

/-- Something is done with the channel of each of some files, or of the standard input if there are
none. The results are none where a file could not be opened or read. -/
def forFiles {α : Type} (paths : List String)
    (action : String → Channel → Utility (Except SystemFault α)) : Utility (List (Option α)) :=
  (if paths.isEmpty then ["-"] else paths).mapM fun path => do
    match ← openInput path with
    | .error fault =>
      complainOf path fault
      return none
    | .ok channel =>
      match ← action path channel with
      | .error fault =>
        complainOf path fault
        return none
      | .ok result => return some result

/-! ### Options -/

/-- The arguments that are no options, or the first letter of an option that is not known. -/
def operandsOf (letters : List Char) : List String → Except Char (List String)
  | [] => return []
  | argument :: rest =>
    match argument.toList with
    | ['-', '-'] => return rest
    | '-' :: c :: more =>
      match (c :: more).find? fun c => !letters.contains c with
      | some unknown => throw unknown
      | none => operandsOf letters rest
    | _ => do
      let operands ← operandsOf letters rest
      return argument :: operands

/-- A complaint about the arguments as a whole. -/
def complainOfUse (text : String) : Utility Nat := do
  complain text
  let hint := "Try '" ++ (← read).title ++ " --help' for more information.\n"
  let _ ← write 2 (textBytes hint)
  return 1

/-- A utility whose options change nothing, by what it does with the other arguments. -/
def withOptions (letters : List Char) (run : List String → Utility Nat) : Utility Nat := do
  match operandsOf letters (← read).arguments with
  | .ok operands => run operands
  | .error unknown => complainOfUse ("invalid option -- '" ++ String.singleton unknown ++ "'")

/-- The number with which a utility exits whose parts went well or not. -/
def codeOf (isSound : Bool) : Nat := if isSound then 0 else 1

end Utility

end RoutineTiming
