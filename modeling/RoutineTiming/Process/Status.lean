import RoutineTiming.Text.Numeral

/-!
# How processes end

A process exits with a number, zero for success, or is ended by a signal. Some signals leave an
image of the memory of the process behind.

## Main definitions

* `ExitStatus` : how a process ended.
* `signalName?` : the names of the signals.
* `ExitStatus.signal?` : the signal that ended a process.
* `ExitStatus.failure?` : a failure in words.
-/

namespace RoutineTiming

/-- How a process ended. -/
inductive ExitStatus where
  /-- The process exited with a number. -/
  | exited (code : Nat)
  /-- The process was ended by a signal, and its memory was dumped or not. -/
  | signaled (signal : Nat) (coreDumped : Bool)
  deriving DecidableEq, Repr

/-- The signals by number and name. -/
def signals : List (Nat × String) :=
  [(1, "HUP"), (2, "INT"), (3, "QUIT"), (4, "ILL"), (5, "TRAP"), (6, "ABRT"), (7, "BUS"),
    (8, "FPE"), (9, "KILL"), (10, "USR1"), (11, "SEGV"), (12, "USR2"), (13, "PIPE"), (14, "ALRM"),
    (15, "TERM"), (16, "STKFLT"), (17, "CHLD"), (18, "CONT"), (19, "STOP"), (20, "TSTP"),
    (21, "TTIN"), (22, "TTOU"), (23, "URG"), (24, "XCPU"), (25, "XFSZ"), (26, "VTALRM"),
    (27, "PROF"), (28, "WINCH"), (29, "IO"), (30, "PWR"), (31, "SYS")]

/-- The name of a signal. -/
def signalName? (signal : Nat) : Option String :=
  (signals.find? fun e => e.1 = signal).map Prod.snd

/-- The signal of an interruption by the user. -/
def interruption : Nat := 2

/-- The signal for a process that writes to a broken pipe. -/
def pipeSignal : Nat := 13

namespace ExitStatus

/-- The process exited with zero. -/
def isSuccess (status : ExitStatus) : Bool := status = .exited 0

/-- The signal that ended the process, if one did. -/
def signal? : ExitStatus → Option Nat
  | .exited _ => none
  | .signaled signal _ => some signal

/-- The process was interrupted. -/
def isInterrupted (status : ExitStatus) : Bool := status.signal? = some interruption

/-- The status in words. -/
def text : ExitStatus → String
  | .exited code => "exit status: " ++ numeral code
  | .signaled signal coreDumped =>
    let name :=
      match signalName? signal with
      | some name => " (SIG" ++ name ++ ")"
      | none => ""
    "signal: " ++ numeral signal ++ name ++ if coreDumped then " (core dumped)" else ""

/-- The status in words, if it is not that of a success. -/
def failure? (status : ExitStatus) : Option String :=
  if status.isSuccess then none else some status.text

end ExitStatus

end RoutineTiming
