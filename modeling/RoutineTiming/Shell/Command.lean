import RoutineTiming.Shell.Control

/-!
# Simple commands

The words of a simple command are expanded first, since its name tells how the others are to be
expanded; then its redirections and its assignments are made, and it is traced if the shell is told
to. The name stands for a function, a builtin, or a program.

## Main definitions

* `Shell.CommandWords`, `Shell.expandCommand` : the words of a command.
* `Shell.traceCommand` : the trace of a command.
* `Shell.runNamed` : the run of a command by its name.
* `Shell.runSimple` : a simple command.
-/

namespace RoutineTiming.Shell

/-! ### Words -/

/-- The words of a command while they are expanded. -/
structure CommandWords where
  /-- The fields that are known. -/
  fields : List String := []
  /-- The words that are left. -/
  left : List Word := []
  /-- How many fields stand in front of the name. -/
  start : Nat := 0
  /-- The first builtin that the fields name is a special one. -/
  isSpecial : Bool := false
  /-- The arguments can be assignments. -/
  declares : Bool := false
  /-- The name stands for no function. -/
  skipsFunctions : Bool := false
  /-- Programs are searched for where every system has them. -/
  isStandard : Bool := false

namespace CommandWords

/-- The name and the arguments, as far as they are known. -/
def active (words : CommandWords) : List String := words.fields.drop words.start

/-- Words are expanded until one of them gives a field. -/
def fillFrom (capture : Capture) (words : CommandWords) : List Word → Run CommandWords
  | [] => return { words with left := [] }
  | word :: left => do
    let more ← expandFields capture word
    if more.isEmpty then fillFrom capture words left
    else return { words with fields := words.fields ++ more, left }

/-- Words are expanded until at least a number of active fields is known, or none is left. -/
def fill (capture : Capture) (count : Nat) (words : CommandWords) : Run CommandWords :=
  if count ≤ words.active.length then return words else fillFrom capture words words.left

/-- A word of assignment as its name with the equals sign, and the value. -/
def splitName : Word → List Part × Word
  | .char '=' false :: rest => ([.char '=' false], rest)
  | part :: rest =>
    let (name, value) := splitName rest
    (part :: name, value)
  | [] => ([], [])

/-- The name of a word of assignment, and its value. -/
def expandAssigned (capture : Capture) (word : Word) : Run (String × String) := do
  let (name, value) := splitName word
  let text := (plainText? name).getD ""
  return (String.ofList text.toList.dropLast, ← expandAssignment capture value)

/-- The fields of a word behind the name of a command. -/
def expandArgument (capture : Capture) (declares : Bool) (word : Word) : Run (List String) := do
  if declares && isAssignment word then
    let (name, value) ← expandAssigned capture word
    return [name ++ "=" ++ value]
  else expandFields capture word

/-- The options of `command` in front of the name that it runs are passed over. There is no such
name if it is to describe one. -/
def skipOptions (capture : Capture) (words : CommandWords) : Run (Option CommandWords) :=
  repeated (fun words => do
    let words ← words.fill capture 1
    match words.active.head?.map String.toList with
    | none => return .inr none
    | some ['-', '-'] =>
      let words ← fill capture 1 { words with start := words.start + 1 }
      return .inr (if words.active.isEmpty then none else some words)
    | some ('-' :: c :: letters) =>
      if (c :: letters).all (· = 'p') then
        return .inl { words with start := words.start + 1, isStandard := true }
      else return .inr none
    | some _ => return .inr (some words)) words

/-- The name of the command is looked for behind any number of `command`. -/
def findName (capture : Capture) (words : CommandWords) : Run CommandWords :=
  repeated (fun (words, isFirst) => do
    match words.active with
    | [] => return .inr words
    | name :: _ =>
      let isFunction := !words.skipsFunctions && ((← get).functions.lookup name).isSome
      if isFunction ∨ !builtinNames.contains name then
        return .inr { words with declares := false }
      else
        let words :=
          { words with
            isSpecial := if isFirst then specialBuiltins.contains name else words.isSpecial
            declares := declaringBuiltins.contains name }
        if name ≠ "command" then return .inr words
        else
          match ← skipOptions capture { words with start := words.start + 1 } with
          | some words => return .inl ({ words with skipsFunctions := true }, false)
          | none => return .inr words) (words, true)

end CommandWords

/-- The words of a command. -/
def expandCommand (capture : Capture) (words : List Word) : Run CommandWords := do
  let words ← CommandWords.fill capture 1 { left := words }
  let words ← words.findName capture
  let more ← words.left.mapM (CommandWords.expandArgument capture words.declares)
  return { words with fields := words.fields ++ more.flatten, left := [] }

/-! ### Traces -/

/-- The prompt in front of traces. -/
def tracePrompt (capture : Capture) : Run String := do
  let state ← get
  let prompt := (state.value? "PS4").getD ""
  match readExpanded prompt with
  | .ok document =>
    set { state with isTracing := true }
    ensuring (expandDocument capture document)
      (modify fun state => { state with isTracing := false })
  | .error _ => return prompt

/-- A command is traced on a channel, by its assignments and words. -/
def traceCommand (capture : Capture) (channel : Option Channel) (texts : List String) :
    Run Unit := do
  let state ← get
  if state.hasOption "xtrace" ∧ !state.isTracing then
    let line := (← tracePrompt capture) ++ " ".intercalate texts ++ "\n"
    match channel with
    | some channel =>
      let state ← get
      let _ ← settleWrite (state.world.write channel (textBytes line))
    | none => return ()

/-! ### Functions, builtins and programs -/

/-- The body of a function with arguments. -/
def callFunction (evaluate : Evaluator) (body : Script) (arguments : List String)
    (flags : Flags) : Run Nat := do
  let outer ← get
  modify fun state => { state with arguments, optionPlace := {}, loopDepth := 0 }
  let result ← attempt (evaluate body { isTested := flags.isTested })
  modify fun state =>
    { state with
      arguments := outer.arguments
      optionPlace := outer.optionPlace
      loopDepth := outer.loopDepth }
  match result with
  | .error .return => return (← get).status
  | .error stop => throw stop
  | .ok _ => return (← get).status

/-- A program with arguments. The shell becomes the program if it has nothing else to do. -/
def callProgram (programs : Programs) (evaluate : Evaluator) (flags : Flags) (path name : String)
    (arguments : List String) : Run Nat := do
  if flags.isLast ∧ !(← get).hasTraps then
    throw (.ended (← execute programs path name arguments))
  else awaitEnds [← launch evaluate programs path name arguments]

/-- What the name of a command stands for. -/
def CommandWords.lookUpName (words : CommandWords) (name : String) : Run Found := do
  if words.isStandard then return (← get).findBuiltin standardPath name
  else lookUp words.skipsFunctions name

/-- A command is run by its name. The fault of an ordinary builtin is no more than its status. -/
def runNamed (programs : Programs) (evaluate : Evaluator) (flags : Flags) (words : CommandWords)
    (name : String) (arguments : List String) : Run Nat := do
  match ← words.lookUpName name with
  | .function body => callFunction evaluate body arguments flags
  | .program path => callProgram programs evaluate flags path name arguments
  | .nothing reason =>
    warn (name ++ ": " ++ reason)
    return 127
  | .builtin =>
    match builtin? programs evaluate flags name with
    | none => return 127
    | some builtin =>
      let frames := (← get).frames.length
      match ← attempt (callBuiltin name builtin arguments) with
      | .error .fault =>
        if words.isSpecial then throw .fault
        else
          leaveFramesTo frames
          return (← get).status
      | result => conclude result

/-! ### Simple commands -/

/-- The assignments of a command are made; they last as long as the command or longer. -/
def assignAll (capture : Capture) (set : String → String → Run Unit) (assignments : List Word) :
    Run (List String) :=
  assignments.mapM fun word => do
    let (name, value) ← CommandWords.expandAssigned capture word
    set name value
    return name ++ "=" ++ value

/-- A command whose words are expanded and whose channels are changed. -/
def runPrepared (programs : Programs) (evaluate : Evaluator) (flags : Flags)
    (traceChannel : Option Channel) (assignments : List Word) (words : CommandWords) :
    Run Nat := do
  let capture := captureWith evaluate
  let isReplaced := words.active.head? = some "exec" ∧ 1 < words.active.length
  let run (isLocal : Bool) : Run Nat := do
    let assigned ← assignAll capture
      (if isLocal then assignLocally else if isReplaced then assignExported else assign) assignments
    traceCommand capture traceChannel (assigned ++ words.fields)
    match words.active with
    | name :: arguments => runNamed programs evaluate flags words name arguments
    | [] => return (← get).outputStatus
  if words.active.isEmpty ∨ words.isSpecial then run false else withFrame (run true)

/-- A simple command. -/
def runSimple (programs : Programs) (evaluate : Evaluator) (flags : Flags) (line : Nat)
    (assignments words : List Word) (redirections : List Redirection) : Run Nat := do
  let capture := captureWith evaluate
  modify fun state => { state with line, outputStatus := 0 }
  let words ← expandCommand capture words
  let changes ← prepareAll capture redirections
  let outer ← get
  let restore : Run Unit :=
    if words.active = ["exec"] then return () else restoreAll (outer.channelsOf changes)
  if ← connectAll capture changes then
    ensuring
      (runPrepared programs evaluate flags (outer.process.channel? 2) assignments words) restore
  else
    restoreAll (outer.channelsOf changes)
    setStatus 2
    if words.isSpecial then throw .fault else return 2

end RoutineTiming.Shell
