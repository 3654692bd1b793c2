import RoutineTiming.Shell.Job
import RoutineTiming.Shell.Syntax
import RoutineTiming.Text.Numeral

/-!
# The state of a shell

A shell is a process with variables, functions, arguments, options, traps, and processes that it has
started in the background. A command that it runs changes its state, and either ends with a number
or stops what is being run, by a fault, by a jump out of a loop or a function, or by the end of the
shell.

## Main definitions

* `Shell.Variable`, `Shell.Frame` : what a shell knows.
* `Shell.State` : a shell.
* `Shell.Stop` : why the commands at hand are not continued.
* `Shell.Run` : what a shell does.
* `Shell.receive` : a signal comes.
* `Shell.warn`, `Shell.fault` : complaints.
* `Shell.print`, `Shell.flush` : the output of builtins.
-/

namespace RoutineTiming.Shell

/-- A variable; it may have marks but no value. -/
structure Variable where
  value : Option String := none
  isExported : Bool := false
  isReadonly : Bool := false

/-- What is put back when a command is over. -/
structure Frame where
  /-- The variables as they were, those saved last first. -/
  bindings : List (String × Option Variable) := []
  /-- The options as they were, if they were saved. -/
  options : Option (List (String × Bool)) := none

/-- Where the arguments are looked at next for options: the number of an argument, and that of a
character in the one before it. -/
structure OptionPlace where
  argument : Nat := 1
  character : Option Nat := none

/-- A shell. -/
structure State where
  world : World
  process : Process
  /-- What the parameter `0` holds, and what complaints begin with. -/
  title : String := "sh"
  /-- What the parameter `$` holds. -/
  identity : Nat
  isSubshell : Bool := false
  bindings : List (String × Variable) := []
  functions : List (String × Script) := []
  aliases : List (String × String) := []
  /-- The paths of the programs that were found by their names. -/
  tracked : List (String × String) := []
  /-- The search path by which they were found. -/
  trackedBy : String := ""
  arguments : List String := []
  optionPlace : OptionPlace := {}
  /-- The options that were turned on or off. -/
  options : List (String × Bool) := []
  /-- All other options count as on, since the shell was not told yet which ones are. -/
  isStarting : Bool := false
  /-- The status of the last command. -/
  status : Nat := 0
  /-- The status of the last command whose output was taken. -/
  outputStatus : Nat := 0
  /-- The status with which the shell exits, while a trap is run. -/
  savedStatus : Option Nat := none
  /-- The commands to run on signals, none to ignore them, by the numbers of the signals. At the
  exit they are run as on signal zero. -/
  traps : List (Nat × String) := []
  /-- The signals that came and have commands to run. -/
  pending : List Nat := []
  /-- The jobs, the latest first. -/
  jobs : List Job := []
  /-- The process started last in the background. -/
  lastJob : Option Nat := none
  documents : Array Document := #[]
  /-- The line that complaints name. -/
  line : Nat := 1
  /-- The builtin that complaints name. -/
  builtin : Option String := none
  /-- How many loops are run inside the function at hand. -/
  loopDepth : Nat := 0
  /-- What is put back at the end of the commands at hand, the innermost first. -/
  frames : List Frame := []
  /-- What builtins printed, the latest first. -/
  printed : List (List UInt8) := []
  /-- The prompt of traced commands is being expanded. -/
  isTracing : Bool := false
  /-- The permissions that new files do not get. -/
  mask : Nat := 0o022

/-- Why the commands at hand are not continued. -/
inductive Stop where
  /-- The shell was told to exit. -/
  | exit
  /-- The shell has no more to do. -/
  | over
  /-- There was a fault, which ends a shell unless an ordinary builtin made it. -/
  | fault
  /-- The process is over. -/
  | ended (status : ExitStatus)
  /-- Loops are left. -/
  | leave (loops : Nat)
  /-- A loop is continued, after those inside it are left. -/
  | resume (loops : Nat)
  /-- A function is left, or a file of commands. -/
  | return

/-- What a shell does. -/
abbrev Run := ExceptT Stop (StateM State)

/-- An action and its end, whatever it is. -/
def attempt {α : Type} (action : Run α) : Run (Except Stop α) := fun state =>
  let (result, state) := action state
  (.ok result, state)

/-- The end of an action. -/
def conclude {α : Type} (result : Except Stop α) : Run α := fun state => (result, state)

/-- An action, and another one after it, whatever its end is. -/
def ensuring {α : Type} (action : Run α) (after : Run Unit) : Run α := do
  let result ← attempt action
  after
  conclude result

/-- Steps repeated until one of them gives a result; no script that ends repeats as many. -/
def repeated {α β : Type} (step : α → Run (α ⊕ β)) (start : α) : Run β :=
  go (2 ^ 60) start
where
  go : Nat → α → Run β
    | 0, _ => throw (.ended (.signaled 9 false))
    | n + 1, a => do
      match ← step a with
      | .inl next => go n next
      | .inr result => return result

/-! ### Options -/

/-- The names of the options with their letters. -/
def optionNames : List (String × Option Char) :=
  [("errexit", some 'e'), ("noglob", some 'f'), ("ignoreeof", some 'I'),
    ("interactive", some 'i'), ("monitor", some 'm'), ("noexec", some 'n'), ("stdin", some 's'),
    ("xtrace", some 'x'), ("verbose", some 'v'), ("vi", some 'V'), ("emacs", some 'E'),
    ("noclobber", some 'C'), ("allexport", some 'a'), ("notify", some 'b'), ("nounset", some 'u'),
    ("privileged", some 'p'), ("nolog", none), ("debug", none)]

/-- The option is on. -/
def State.hasOption (state : State) (name : String) : Bool :=
  (state.options.lookup name).getD state.isStarting

/-- An option is turned on or off. -/
def setOption (name : String) (on : Bool) : Run Unit :=
  modify fun state =>
    { state with options := (name, on) :: state.options.filter fun option => option.1 ≠ name }

/-! ### Signals -/

/-- A signal comes to the shell. Commands for it do not help if the shell was started to ignore it,
or if nothing can keep it from ending a process. -/
def receive (signal : Nat) : Run Unit := do
  let state ← get
  match state.traps.lookup signal with
  | none => if state.process.isEndedBy signal then throw (.ended (.signaled signal false))
  | some action =>
    if signal = killSignal then throw (.ended (.signaled signal false))
    else if action = "" ∨ state.process.ignored.contains signal then return ()
    else if !state.pending.contains signal then
      set { state with pending := state.pending ++ [signal] }

/-! ### Output and complaints -/

/-- What a write came to. The signal comes that can belong to a refusal. -/
def settleWrite (result : Except SystemFault Unit × World) : Run Bool := do
  modify fun state => { state with world := result.2 }
  match result.1 with
  | .ok () => return true
  | .error fault =>
    match fault.signal? with
    | some signal => receive signal
    | none => pure ()
    return false

/-- Bytes are written to a channel of the process; the result says whether they could be. -/
def writeBytes (channel : Nat) (bytes : List UInt8) : Run Bool := do
  let state ← get
  settleWrite (state.process.write channel bytes state.world)

/-- A text is written to the standard error of the process. -/
def writeError (text : String) : Run Unit := do
  let _ ← writeBytes 2 (textBytes text)

/-- A builtin prints bytes. -/
def printBytes (bytes : List UInt8) : Run Unit :=
  modify fun state => { state with printed := bytes :: state.printed }

/-- A builtin prints a text. -/
def print (text : String) : Run Unit := printBytes (textBytes text)

/-- What builtins printed is written; the result says whether it could be. -/
def flush : Run Bool := do
  let state ← get
  match state.printed with
  | [] => return true
  | printed =>
    set { state with printed := [] }
    let bytes := printed.reverse.flatten
    if bytes.isEmpty then return true else writeBytes 1 bytes

/-- What complaints begin with. -/
def State.complaintPrefix (state : State) : String :=
  let place := state.title ++ ": " ++ numeral state.line ++ ": "
  match state.builtin with
  | some builtin => place ++ builtin ++ ": "
  | none => place

/-- A complaint. -/
def warn (text : String) : Run Unit := do
  writeError ((← get).complaintPrefix ++ text ++ "\n")

/-- The status of the last command is set. -/
def setStatus (status : Nat) : Run Unit := modify fun state => { state with status }

/-- A complaint that stops what is being run. -/
def fault {α : Type} (text : String) : Run α := do
  setStatus 2
  warn text
  throw .fault

/-- The text of a script in a file. Zero bytes are passed over. -/
def scriptText (bytes : List UInt8) : String := byteText (bytes.filter (· ≠ 0))

/-! ### Numbers -/

/-- The largest number that a builtin takes. -/
def maxNumber : Nat := 2 ^ 31 - 1

/-- A blank of numbers. -/
def isNumberBlank (c : Char) : Bool :=
  [' ', '\t', '\n', '\x0b', '\x0c', '\r'].contains c

/-- The digits and the sign of a text that is a whole number between blanks. -/
def readSignedDigits? (text : String) : Option (Bool × List Char) :=
  let body := (text.toList.dropWhile isNumberBlank).reverse.dropWhile isNumberBlank |>.reverse
  let (isNegative, digits) :=
    match body with
    | '-' :: digits => (true, digits)
    | '+' :: digits => (false, digits)
    | digits => (false, digits)
  if digits ≠ [] ∧ digits.all Char.isDigit then some (isNegative, digits) else none

/-- The whole number that a text is, if it has at most 64 bits. -/
def readWhole? (text : String) : Option Int := do
  let (isNegative, digits) ← readSignedDigits? text
  let n := digitsValue 0 digits
  let value : Int := if isNegative then -n else n
  if -(2 ^ 63) ≤ value ∧ value < 2 ^ 63 then some value else none

/-- The fault that a text is not a number that can be used. -/
def badNumber {α : Type} (text : String) : Run α := fault ("Illegal number: " ++ text)

/-- The number that an argument of a builtin is. -/
def numberOf (text : String) : Run Nat := do
  match readWhole? text with
  | some n => if 0 ≤ n ∧ n ≤ maxNumber then return n.toNat else badNumber text
  | none => badNumber text

end RoutineTiming.Shell
