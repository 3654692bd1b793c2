import RoutineTiming.Shell.Command

/-!
# The evaluation of commands

A command is evaluated by way of the commands inside it, down to a depth. The shell acts on signals
in front of every command and behind it; if it is told to, it ends when a command fails whose status
nobody looks at.

## Main definitions

* `Shell.evaluateCompound` : one command, where those inside it are evaluated as given.
* `Shell.evaluateStep` : the same, with what the shell does around every command.
* `Shell.evaluator` : the evaluation of commands down to a depth.
-/

namespace RoutineTiming.Shell

/-! ### Loops -/

/-- How a part of a loop ended. -/
inductive PartEnd where
  | passed (status : Nat)
  /-- The loop is left. -/
  | left
  /-- The loop is continued. -/
  | resumed

/-- A part of a loop; jumps inside it that concern the loop end here. -/
def loopPart (action : Run Nat) : Run PartEnd := do
  match ← attempt action with
  | .ok status => return .passed status
  | .error (.leave loops) => if loops ≤ 1 then return .left else throw (.leave (loops - 1))
  | .error (.resume loops) => if loops ≤ 1 then return .resumed else throw (.resume (loops - 1))
  | .error stop => throw stop

/-- An action inside one more loop. -/
def inLoop {α : Type} (action : Run α) : Run α := do
  modify fun state => { state with loopDepth := state.loopDepth + 1 }
  ensuring action (modify fun state => { state with loopDepth := state.loopDepth - 1 })

/-- The time at which processes end that go on forever. -/
def endOfTime : Nat := 2 ^ 62

/-- A loop is repeated. If that happens too often, time passes up to the next signal; if there is
none, a process in the background goes on forever. -/
def spendPatience : Run Unit := do
  let state ← get
  match state.world.patience with
  | patience + 1 => set { state with world := { state.world with patience } }
  | 0 =>
    set { state with world := { state.world with patience := loopPatience } }
    match state.world.nextSignal? state.process.number with
    | some sent =>
      setClock (max sent.time state.world.clock)
      receiveAll
    | none =>
      if state.world.isBackground then
        setClock endOfTime
        throw (.ended (.signaled killSignal false))

/-- A loop with a condition. -/
def evaluateLoop (evaluate : Evaluator) (flags : Flags) (whileSuccess : Bool)
    (condition body : Script) : Run Nat :=
  inLoop (repeated (fun status => do
    spendPatience
    match ← loopPart (evaluate condition { isTested := true }) with
    | .left => return .inr status
    | .resumed => return .inl status
    | .passed result =>
      if decide (result = 0) ≠ whileSuccess then return .inr status
      else
        match ← loopPart (evaluate body { isTested := flags.isTested }) with
        | .left => return .inr 0
        | .resumed => return .inl 0
        | .passed status => return .inl status) 0)

/-- A loop over words. -/
def evaluateEach (evaluate : Evaluator) (flags : Flags) (name : String) (body : Script)
    (values : List String) : Run Nat :=
  inLoop (go 0 values)
where
  /-- The rest of the loop, behind a body with a status. -/
  go (status : Nat) : List String → Run Nat
    | [] => return status
    | value :: values => do
      assign name value
      match ← loopPart (evaluate body { isTested := flags.isTested }) with
      | .left => return 0
      | .resumed => go 0 values
      | .passed status => go status values

/-! ### Choices -/

/-- The commands of the first arm that a text matches, if there is one. -/
def chooseArm (capture : Capture) (subject : List Char) :
    List (List Word × Script) → Run (Option Script)
  | [] => return none
  | (patterns, body) :: arms => do
    let isMatched ← anyMatches patterns
    if isMatched then return some body else chooseArm capture subject arms
where
  /-- One of some patterns matches the text; those behind it are not expanded. -/
  anyMatches : List Word → Run Bool
    | [] => return false
    | pattern :: patterns => do
      if patternMatches (← expandPattern capture pattern) subject then return true
      else anyMatches patterns

/-! ### Processes -/

/-- The channels of a process are changed for all that it does. -/
def connectForGood (capture : Capture) (changes : List (Nat × ChannelChange)) : Run Unit :=
  changes.forM fun (number, change) => connect capture number change

/-- The commands of a subshell. -/
def evaluateSubshell (evaluate : Evaluator) (flags : Flags) (line : Nat) (body : Script)
    (redirections : List Redirection) : Run Nat := do
  modify fun state => { state with line }
  let capture := captureWith evaluate
  let changes ← prepareAll capture redirections
  let inside : Run Nat := do
    connectForGood capture changes
    evaluate body { flags with isLast := true }
  if flags.isLast ∧ !(← get).hasTraps then
    modify fun state => { state with isSubshell := true, jobs := [] }
    inside
  else awaitEnds [← inChild evaluate inside]

/-- Commands that the shell does not wait for. -/
def evaluateBackground (evaluate : Evaluator) (line : Nat) (body : Script)
    (redirections : List Redirection) : Run Nat := do
  modify fun state => { state with line }
  let capture := captureWith evaluate
  let changes ← prepareAll capture redirections
  inBackground do
    let known ← inChild evaluate do
      connectForGood capture changes
      evaluate body { isLast := true }
    return [known]
  return 0

/-- The program that a command names is looked for before the command gets a process. -/
def lookAhead : Script → Run Unit
  | .simple _ _ (word :: _) _ => do
    match plainText? word with
    | some name => if isName name then let _ ← lookUp false name
    | none => return ()
  | _ => return ()

/-- How much can be written to a pipe before anything is read from it, and what is read at once. -/
def pipeSize : Nat := 65536 + 8192

/-- The largest room that a pipe is tried with. -/
def greatestRoom : Nat := 64 * pipeSize

/-- The pipe that is to take the place of another one, if what became of that one shows that its
bounds were wrong: it was too small for one who reads everything, or it was written to after the
last process had ended that read from it. -/
def correctedPipe? (bounds pipe : Pipe) (readersEnd : Nat) : Option Pipe :=
  let room := bounds.room.getD 0
  if pipe.isOverfull ∧ pipe.isDrained ∧ room < greatestRoom then
    some { bounds with room := some (8 * room) }
  else if readersEnd < pipe.lastAttempt ∧ !pipe.isDrained ∧ bounds.readersEnd.isNone then
    some { bounds with readersEnd := some readersEnd }
  else none

/-- Commands that run beside one another, where each reads what the one in front of it writes: the
ends of their processes. The first one reads from the channel that is given, if one is. -/
def evaluatePipeline (evaluate : Evaluator) (start : Nat) :
    Option Channel → List Script → Run (List ProcessEnd)
  | _, [] => return []
  | input, command :: rest => do
    setClock start
    lookAhead command
    let inside (output : Option Channel) : Run Nat := do
      if input.isSome then setChannel 0 input
      if output.isSome then setChannel 1 output
      evaluate command { isLast := true }
    match rest with
    | [] => return [← inChild evaluate (inside none)]
    | _ =>
      let outer ← get
      repeated (fun bounds => do
        let (reader, writer, world) := outer.world.openPipe bounds
        set { outer with world }
        let known ← inChild evaluate (inside (some writer))
        let others ← evaluatePipeline evaluate start (some reader) rest
        let readersEnd := (others.head?.map ProcessEnd.time).getD start
        let pipe := ((← get).world.pipe? reader).getD {}
        match correctedPipe? bounds pipe readersEnd with
        | some bounds => return .inl bounds
        | none =>
          let time := if pipe.isOverfull then max known.time readersEnd else known.time
          return .inr ({ known with time } :: others)) { room := some pipeSize }

/-! ### Commands -/

/-- The flags inside a command that is not the last one. -/
def Flags.inside (flags : Flags) : Flags := { isTested := flags.isTested }

/-- A compound command with redirections. -/
def evaluateRedirected (evaluate : Evaluator) (flags : Flags) (line : Nat) (body : Script)
    (redirections : List Redirection) : Run Nat := do
  modify fun state => { state with line }
  let capture := captureWith evaluate
  let changes ← prepareAll capture redirections
  let outer := (← get).channelsOf changes
  if ← connectAll capture changes then ensuring (evaluate body flags.inside) (restoreAll outer)
  else
    restoreAll outer
    return 2

/-- One command, where those inside it are evaluated as given. The status is none if it stays as it
was. -/
def evaluateCompound (programs : Programs) (evaluate : Evaluator) (script : Script)
    (flags : Flags) : Run (Option Nat) := do
  let capture := captureWith evaluate
  match script with
  | .nothing => return none
  | .simple line assignments words redirections =>
    return some (← runSimple programs evaluate flags line assignments words redirections)
  | .redirected line body redirections =>
    return some (← evaluateRedirected evaluate flags line body redirections)
  | .subshell line body redirections =>
    return some (← evaluateSubshell evaluate flags line body redirections)
  | .background line body redirections =>
    return some (← evaluateBackground evaluate line body redirections)
  | .pipeline commands true =>
    inBackground do evaluatePipeline evaluate (← get).world.clock none commands
    return some 0
  | .pipeline commands false =>
    let start := (← get).world.clock
    return some (← awaitEnds (← evaluatePipeline evaluate start none commands))
  | .negated command =>
    let status ← evaluate command { isTested := true }
    return some (if status = 0 then 1 else 0)
  | .both first second =>
    let _ ← evaluate first flags.inside
    return some (← evaluate second flags)
  | .ifSuccess first second =>
    let status ← evaluate first { isTested := true }
    if status = 0 then return some (← evaluate second flags) else return none
  | .ifFailure first second =>
    let status ← evaluate first { isTested := true }
    if status = 0 then return none else return some (← evaluate second flags)
  | .branch condition thenDo elseDo =>
    let status ← evaluate condition { isTested := true }
    let taken := if status = 0 then thenDo else elseDo
    if taken.isNothing then return some 0 else return some (← evaluate taken flags)
  | .loop whileSuccess condition body =>
    return some (← evaluateLoop evaluate flags whileSuccess condition body)
  | .each line name words body =>
    modify fun state => { state with line }
    let values ← words.mapM (expandFields capture)
    return some (← evaluateEach evaluate flags name body values.flatten)
  | .choose line subject arms =>
    modify fun state => { state with line }
    let text ← expandText capture subject
    match ← chooseArm capture text.toList arms with
    | some body => if body.isNothing then return some 0 else return some (← evaluate body flags)
    | none => return some 0
  | .define name body =>
    modify fun state => { state with functions := putEntry name body state.functions }
    return some 0

/-- A failure of the command can end the shell. -/
def endsOnFailure : Script → Bool
  | .simple .. => true
  | .redirected .. => true
  | .subshell .. => true
  | .background .. => true
  | .pipeline .. => true
  | _ => false

/-- One command, where those inside it are evaluated as given, with what the shell does around
every command. -/
def evaluateStep (programs : Programs) (evaluate : Evaluator) : Evaluator := fun script flags => do
  if script.isNothing ∨ !(← get).hasOption "noexec" then
    if !script.isNothing then handleSignals evaluate
    match ← evaluateCompound programs evaluate script flags with
    | some status =>
      setStatus status
      handleSignals evaluate
      let state ← get
      let fails := status ≠ 0 ∧ endsOnFailure script ∧ !flags.isTested
      if fails ∧ state.hasOption "errexit" then throw .over
    | none => handleSignals evaluate
  if flags.isLast then throw .over
  return (← get).status

/-- The evaluation of commands down to a depth. A shell that goes deeper has no memory left. -/
def evaluator (programs : Programs) : (depth : Nat) → Evaluator
  | 0, _, _ => throw (.ended (.signaled 11 false))
  | depth + 1, script, flags => evaluateStep programs (evaluator programs depth) script flags

end RoutineTiming.Shell
