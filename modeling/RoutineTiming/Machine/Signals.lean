import RoutineTiming.Machine.Process

/-!
# Signals between processes

A process in the background is followed up to its end before the process goes on that started it. If
that one, or another one, sends it a signal then, the signal has been missed. The whole run is made
once more in this case, and the signal is foreseen: it waits from the beginning for its process to
get to the time at which it is sent. What happened before that time is the same again.

## Main definitions

* `harmlessSignals`, `Process.isEndedBy` : what signals do.
* `World.post` : a signal is sent to another process.
* `World.takeDue`, `World.nextSignal?` : the signals that came, and the one that comes next.
* `World.cutShort` : the end of a process that knows nothing of signals.
* `foreseeing` : a run that misses no signals.
-/

namespace RoutineTiming

/-! ### What signals do -/

/-- The signals that do no harm, or only stop a process for a while. -/
def harmlessSignals : List Nat := [0, 17, 18, 19, 20, 21, 22, 23, 28]

/-- The signal that nothing keeps from ending a process. -/
def killSignal : Nat := 9

/-- The signal for a process when another one is over that it started. -/
def childSignal : Nat := 17

/-- A signal ends the process unless the process itself does something about it. -/
def Process.isEndedBy (process : Process) (signal : Nat) : Bool :=
  signal = killSignal ||
    !(process.ignored.contains signal || harmlessSignals.contains signal)

namespace World

/-! ### Sending -/

/-- The world after a signal was sent to a process in the background that has been followed up to a
given end. The process goes on a little before the signal comes. -/
def postTo (world : World) (known : ProcessEnd) (signal : Nat) : World :=
  let sent : SentSignal := ⟨world.clock + 1, known.process, signal⟩
  if signal = 0 ∨ known.time ≤ world.clock ∨ world.foreseen.contains sent then world
  else { world with missed := sent :: world.missed }

/-- The world after a signal was sent to a process that waits for the one at hand. -/
def postBack (world : World) (process signal : Nat) : World :=
  { world with signals := world.signals ++ [⟨world.clock, process, signal⟩] }

/-! ### Receiving -/

/-- Signals in the order of their times. -/
def inOrder (signals : List SentSignal) : List SentSignal :=
  signals.mergeSort fun a b => decide (a.time ≤ b.time)

/-- The signals that came to a process up to now, the first one first, and the world without
them. -/
def takeDue (world : World) (process : Nat) : List SentSignal × World :=
  if world.signals.isEmpty then ([], world)
  else
    let isDue (sent : SentSignal) : Bool :=
      sent.process = process && decide (sent.time ≤ world.clock)
    let (due, others) := world.signals.partition isDue
    (inOrder due, { world with signals := others })

/-- The signal that comes next to a process. -/
def nextSignal? (world : World) (process : Nat) : Option SentSignal :=
  (inOrder (world.signals.filter fun sent => sent.process = process)).head?

/-- How a process ends that knows nothing of signals, and the world then: as given, unless a signal
ended it before. -/
def cutShort (world : World) (process : Process) (status : ExitStatus) : ExitStatus × World :=
  let (due, world) := world.takeDue process.number
  match due.find? fun sent => process.isEndedBy sent.signal with
  | some sent => (.signaled sent.signal false, { world with clock := sent.time })
  | none => (status, world)

end World

/-! ### Foresight -/

/-- How many signals are foreseen at most. -/
def greatestForesight : Nat := 64

/-- What a run gives, begun anew with every signal that it missed foreseen, for at most a number of
signals. Of several the first one is foreseen, since all that follows it can change. -/
def foreseeing {α : Type} (run : World → Except SystemFault (α × World)) :
    (count : Nat) → World → Except SystemFault (α × World)
  | 0, world => run world
  | count + 1, world => do
    let (result, ended) ← run world
    match World.inOrder ended.missed.reverse with
    | [] => return (result, ended)
    | first :: _ =>
      foreseeing run count
        { world with
          foreseen := world.foreseen ++ [first]
          signals := world.signals ++ [first] }

end RoutineTiming
