import RoutineTiming.Shell.State

/-!
# Variables of the shell

A variable keeps its marks when its value changes. Commands can have values of their own for
variables; when such a command is over, the variables are as before.

## Main definitions

* `Shell.State.lookup`, `Shell.State.value?` : a variable and its value.
* `Shell.assign`, `Shell.unset` : changes of a variable.
* `Shell.assignLocally`, `Shell.withFrame` : values of a command's own.
* `Shell.State.environment` : what the programs that the shell runs see.
* `Shell.importVariables` : the variables of a new shell.
-/

namespace RoutineTiming.Shell

namespace State

/-- The variable of a name. -/
def lookup (state : State) (name : String) : Option Variable := state.bindings.lookup name

/-- The value of a variable, if it has one. -/
def value? (state : State) (name : String) : Option String :=
  (state.lookup name).bind Variable.value

end State

/-- Entries with the value under a key replaced, or with a new one behind the others. -/
def putEntry {α : Type} (key : String) (value : α) : List (String × α) → List (String × α)
  | [] => [(key, value)]
  | (k, old) :: rest => if k = key then (k, value) :: rest else (k, old) :: putEntry key value rest

/-- The entries without that of a key. -/
def dropEntry {α : Type} (key : String) (entries : List (String × α)) : List (String × α) :=
  entries.filter fun e => e.1 ≠ key

/-- A variable is put back as it was. -/
def restoreVariable (name : String) (v : Option Variable) : Run Unit :=
  modify fun state =>
    { state with
      bindings := match v with
        | some v => putEntry name v state.bindings
        | none => dropEntry name state.bindings }

/-- The place where options are looked for next, if a variable with a name gets a value: the
variable for that place must be a number. -/
def placeAfter (name : String) (value : Option String) : Run OptionPlace := do
  if name = "OPTIND" then return { argument := max 1 (← numberOf (value.getD "")) }
  else return (← get).optionPlace

/-- The fault that a variable cannot be changed. -/
def readonlyFault {α : Type} (name : String) : Run α := fault (name ++ ": is read only")

/-- A variable is changed, unless it is read only. -/
def changeVariable (name : String) (change : Variable → Variable) : Run Unit := do
  let state ← get
  let old := (state.lookup name).getD {}
  if old.isReadonly then readonlyFault name
  let new := change old
  let new := { new with isExported := new.isExported || state.hasOption "allexport" }
  let optionPlace ← placeAfter name new.value
  modify fun state =>
    { state with bindings := putEntry name new state.bindings, optionPlace }

/-- A variable gets a value. -/
def assign (name value : String) : Run Unit :=
  changeVariable name fun v => { v with value := some value }

/-- A variable gets a value and is exported. -/
def assignExported (name value : String) : Run Unit :=
  changeVariable name fun v => { v with value := some value, isExported := true }

/-- The name in front of an equals sign, or the whole text. -/
def nameIn (text : String) : String := (text.splitOn "=").headD ""

/-- The fault that a name is none of a variable. -/
def checkName (name : String) : Run Unit :=
  if isName name then return () else fault (name ++ ": bad variable name")

/-- The variable that a text names gets a value. -/
def assignTo (text value : String) : Run Unit := do
  checkName (nameIn text)
  assign (nameIn text) value

/-- A variable is unset. -/
def unset (name : String) : Run Unit := do
  match (← get).lookup name with
  | some v =>
    if v.isReadonly then readonlyFault name
    let optionPlace ← placeAfter name none
    modify fun state =>
      { state with bindings := dropEntry name state.bindings, optionPlace }
  | none => return ()

/-- The variable that a text names is unset. -/
def unsetNamed (text : String) : Run Unit := do
  checkName (nameIn text)
  unset (nameIn text)

/-! ### Values of a command's own -/

/-- The innermost frame is changed. -/
def changeFrame (change : State → Frame → Frame) : Run Unit :=
  modify fun state =>
    match state.frames with
    | frame :: frames => { state with frames := change state frame :: frames }
    | [] => state

/-- The variable is put back when the command at hand is over. -/
def saveVariable (name : String) : Run Unit :=
  changeFrame fun state frame =>
    { frame with bindings := (name, state.lookup name) :: frame.bindings }

/-- The options are put back when the command at hand is over. -/
def saveOptions : Run Unit :=
  changeFrame fun state frame =>
    { frame with options := some (frame.options.getD state.options) }

/-- A variable gets a value, exported, until the command at hand is over. -/
def assignLocally (name value : String) : Run Unit := do
  saveVariable name
  assignExported name value

/-- A variable that a frame holds is put back; one that was not there before must have a name that
variables can have. -/
def restoreHeld (name : String) (v : Option Variable) : Run Unit := do
  if v.isNone then checkName name
  restoreVariable name v
  let optionPlace ← placeAfter name (v.bind Variable.value)
  modify fun state => { state with optionPlace }

/-- The innermost frame is taken away, and what it holds is put back. -/
def leaveFrame : Run Unit := do
  match (← get).frames with
  | frame :: frames =>
    modify fun state => { state with frames, options := frame.options.getD state.options }
    frame.bindings.forM fun (name, v) => restoreHeld name v
  | [] => return ()

/-- The frames inside a number of others are taken away. -/
def leaveFramesTo (count : Nat) : Run Unit := do
  (List.replicate ((← get).frames.length - count) ()).forM fun _ => leaveFrame

/-- The stop leaves commands that are being run, as those behind them are to be run next. -/
def Stop.isJump : Stop → Bool
  | .leave _ => true
  | .resume _ => true
  | .return => true
  | _ => false

/-- An action after which what it saves is put back, unless the shell ends there. -/
def withFrame {α : Type} (action : Run α) : Run α := do
  modify fun state => { state with frames := {} :: state.frames }
  let result ← attempt action
  match result with
  | .ok _ => leaveFrame
  | .error stop => if stop.isJump then leaveFrame
  conclude result

/-! ### Environments -/

/-- The number of the list in which a shell keeps what belongs to a name, if it has as many lists as
given. -/
def listNumber (count : Nat) (name : String) : Nat :=
  match textBytes name with
  | first :: rest => (rest.foldl (fun n b => n + b.toNat) (17 * first.toNat)) % count
  | [] => 0

/-- Entries in the order in which a shell with a number of lists goes through them. -/
def inListOrder {α : Type} (count : Nat) (entries : List (String × α)) : List (String × α) :=
  entries.mergeSort fun a b => decide (listNumber count a.1 ≤ listNumber count b.1)

/-- How many lists a shell has for variables, and for aliases. -/
def variableLists : Nat := 39

namespace State

/-- The environment of the programs that the shell runs. -/
def environment (state : State) : List String :=
  (inListOrder variableLists state.bindings).filterMap fun (name, v) =>
    match v.value, v.isExported with
    | some value, true => some (name ++ "=" ++ value)
    | _, _ => none

end State

/-- The name and the value in an entry of an environment, if the name is that of a variable. -/
def splitEntry? (entry : String) : Option (String × String) :=
  match entry.splitOn "=" with
  | name :: value :: more =>
    if isName name then some (name, "=".intercalate (value :: more)) else none
  | _ => none

/-- The variables that every shell has, where its environment does not say otherwise. -/
def initialVariables (parent : Nat) : List (String × String) :=
  [("PATH", "/usr/local/sbin:/usr/local/bin:/usr/sbin:/usr/bin:/sbin:/bin"), ("IFS", " \t\n"),
    ("OPTIND", "1"), ("PS1", "# "), ("PS2", "> "), ("PS4", "+ "), ("PPID", numeral parent)]

/-- The variables of a shell that starts in an environment. -/
def importVariables (parent : Nat) (directory : String) (environment : List String) :
    List (String × Variable) :=
  let initial := (initialVariables parent).map fun (name, value) =>
    (name, { value := some value : Variable })
  let imported := environment.filterMap splitEntry?
  let bindings := imported.foldl (fun bindings (name, value) =>
    let value :=
      if ["PPID", "IFS", "OPTIND"].contains name then (bindings.lookup name).bind Variable.value
      else some value
    putEntry name { value, isExported := true } bindings) initial
  putEntry "PWD" { value := some directory, isExported := true } bindings

end RoutineTiming.Shell
