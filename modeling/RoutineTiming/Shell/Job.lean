import RoutineTiming.Machine.Signals

/-!
# Jobs

A shell keeps a list of the jobs that it runs in the background, each of which is a process or
several processes joined by pipes. A job has a slot, by whose number it is called. It stays on the
list when it is over, until it is shown, or until its slot is needed after the shell has waited for
it.

## Main definitions

* `Shell.Job` : a job.
* `Shell.freeSlot`, `Shell.withoutSlot` : slots.
* `Shell.reaped` : the jobs that are over by a time.
* `Shell.findJob` : the job that a text means.
-/

namespace RoutineTiming.Shell

/-- What a shell runs in the background. -/
structure Job where
  /-- The number by which the job is called. -/
  slot : Nat
  /-- The ends of its processes, which are known ahead. -/
  ends : List ProcessEnd
  /-- The shell has learnt that the job is over. -/
  isDone : Bool := false
  /-- The shell has waited for the job. -/
  isAwaited : Bool := false

namespace Job

/-- The nanosecond at which the last process of the job ends. -/
def finish (job : Job) : Nat := job.ends.foldl (fun time known => max time known.time) 0

/-- How the job ends: as the last of its processes. -/
def status (job : Job) : ExitStatus :=
  (job.ends.getLast?.map ProcessEnd.status).getD (.exited 0)

/-- The number of the last process of the job. -/
def process (job : Job) : Nat := (job.ends.getLast?.map ProcessEnd.process).getD 0

/-- The slot of the job can be used again. -/
def isSpent (job : Job) : Bool := job.isDone && job.isAwaited

end Job

/-! ### Slots -/

/-- A job needs the slot. -/
def isTaken (jobs : List Job) (slot : Nat) : Bool :=
  jobs.any fun job => job.slot = slot && !job.isSpent

/-- The first slot that no job needs. -/
def freeSlot (jobs : List Job) : Nat :=
  (((List.range jobs.length).map (· + 1)).find? fun slot => !isTaken jobs slot).getD
    (jobs.length + 1)

/-- The jobs without the one in a slot. -/
def withoutSlot (jobs : List Job) (slot : Nat) : List Job := jobs.filter fun job => job.slot ≠ slot

/-- The jobs, where those are done that are over by a time. -/
def reaped (jobs : List Job) (time : Nat) : List Job :=
  jobs.map fun job => if job.finish ≤ time then { job with isDone := true } else job

/-! ### Jobs by their names -/

/-- Why a text means no job. -/
inductive JobFault where
  | noCurrent
  | noPrevious
  | unknown (name : String)
  | ambiguous (name : String)

/-- The complaint. -/
def JobFault.message : JobFault → String
  | noCurrent => "No current job"
  | noPrevious => "No previous job"
  | unknown name => "No such job: " ++ name
  | ambiguous name => name ++ ": ambiguous"

/-- The job that a text means, where the latest job stands first: a percent sign with the number of
its slot, or with a sign for the latest job or the one before it. A job has no text to be found by,
so that only the search for nothing at all can find one. -/
def findJob (jobs : List Job) (name : String) : Except JobFault Job :=
  match name.toList with
  | ['%'] | ['%', '%'] | ['%', '+'] => (jobs.head?.map .ok).getD (.error .noCurrent)
  | ['%', '-'] => (jobs[1]?.map .ok).getD (.error .noPrevious)
  | ['%', '?'] =>
    match jobs with
    | [] => .error (.unknown name)
    | [job] => .ok job
    | _ => .error (.ambiguous name)
  | '%' :: digits =>
    let slot := if digits.all Char.isDigit then digitsValue 0 digits else 0
    match jobs.find? fun job => job.slot = slot with
    | some job => .ok job
    | none => .error (.unknown name)
  | _ => .error (.unknown name)

end RoutineTiming.Shell
