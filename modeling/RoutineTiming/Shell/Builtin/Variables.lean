import RoutineTiming.Shell.Builtin.Basic
import RoutineTiming.Shell.Signal

/-!
# Builtins for variables and options

The builtins that mark, list and unset variables, that change options and arguments, and that look
for options in arguments.

## Main definitions

* `Shell.runExport`, `Shell.runReadonly`, `Shell.runLocal`, `Shell.runUnset` : variables.
* `Shell.runSet`, `Shell.runShift` : options and arguments.
* `Shell.runGetopts` : the next option of arguments.
-/

namespace RoutineTiming.Shell

/-! ### Names -/

/-- The name in front of the first equals sign, and the value behind it if there is one. -/
def splitAssignment (text : String) : String × Option String :=
  match text.splitOn "=" with
  | name :: value :: more => (name, some ("=".intercalate (value :: more)))
  | _ => (text, none)

/-- A variable and its value as the shell would read them again. -/
def assignmentText (name : String) (value : Option String) : String :=
  match value with
  | some value => name ++ "=" ++ singleQuoted value
  | none => name

/-- Some variables are listed in the order of their names, behind a word. -/
def listVariables (front : String) (isListed : Variable → Bool) : Run Unit := do
  let listed := (← get).bindings.filter fun e => isListed e.2
  (listed.mergeSort fun a b => decide (a.1 ≤ b.1)).forM fun (name, v) =>
    print (front ++ assignmentText name v.value ++ "\n")

/-! ### Marks -/

/-- A variable gets a mark, and a value if one is given. -/
def markVariable (mark : Variable → Variable) (argument : String) : Run Unit := do
  let (name, value) := splitAssignment argument
  match value, (← get).lookup name with
  | none, some v => restoreVariable name (some (mark v))
  | value, _ =>
    checkName name
    changeVariable name fun v => mark { v with value }

/-- The builtins that mark variables, or list those with the mark. -/
def runMark (name : String) (mark : Variable → Variable) (isMarked : Variable → Bool) : Builtin :=
  fun arguments => do
    let (options, arguments) ← takeOptions [('p', false)] arguments
    if options.isEmpty ∧ !arguments.isEmpty then arguments.forM (markVariable mark)
    else listVariables (name ++ " ") isMarked
    return 0

/-- The builtin `export`. -/
def runExport : Builtin :=
  runMark "export" (fun v => { v with isExported := true }) Variable.isExported

/-- The builtin `readonly`. -/
def runReadonly : Builtin :=
  runMark "readonly" (fun v => { v with isReadonly := true }) Variable.isReadonly

/-- The builtin `local`. -/
def runLocal : Builtin := fun arguments => do
  if (← get).frames.isEmpty then fault "not in a function"
  arguments.forM fun argument => do
    let (name, value) := splitAssignment argument
    if argument = "-" then saveOptions
    else
      if value.isNone then checkName name
      saveVariable name
      match value with
      | some value => assign name value
      | none => pure ()
  return 0

/-- The builtin `unset`. -/
def runUnset : Builtin := fun arguments => do
  let (options, names) ← takeOptions [('v', false), ('f', false)] arguments
  names.forM fun name => do
    if (options.getLast?.map Prod.fst) = some 'f' then
      modify fun state => { state with functions := dropEntry name state.functions }
    else unsetNamed name
  return 0

/-! ### Options and arguments -/

/-- The options are listed. -/
def listOptions (asCommands : Bool) : Run Unit := do
  let state ← get
  if !asCommands then print "Current option settings\n"
  optionNames.forM fun (name, _) =>
    let isOn := state.hasOption name
    if asCommands then print ("set " ++ (if isOn then "-o " else "+o ") ++ name ++ "\n")
    else
      let padded := String.ofList (name.toList.rightpad 16 ' ')
      print (padded ++ (if isOn then "on" else "off") ++ "\n")

/-- The option that is turned off when a letter turns on another one. -/
def rivalOf? (c : Char) : Option String :=
  match c with
  | 'V' => some "emacs"
  | 'E' => some "vi"
  | _ => none

/-- The option of a letter is turned on or off. -/
def setLetter (c : Char) (on : Bool) : Run Unit := do
  match optionNames.find? fun e => e.2 = some c, rivalOf? c with
  | some (name, _), rival =>
    setOption name on
    match rival with
    | some other => if on then setOption other false
    | none => pure ()
  | none, _ => fault ("Illegal option -" ++ String.singleton c)

/-- The option of a name is turned on or off. -/
def setNamed (name : String) (on : Bool) : Run Unit :=
  if optionNames.any fun e => e.1 = name then setOption name on
  else fault ("Illegal option -o " ++ name)

/-- The options of some letters are turned on or off; the letter `o` takes its name from the
arguments behind, which are given and returned. -/
def setLetters (on : Bool) : List Char → List String → Run (List String)
  | [], behind => return behind
  | 'o' :: rest, name :: behind => do
    setNamed name on
    setLetters on rest behind
  | 'o' :: rest, [] => do
    listOptions !on
    setLetters on rest []
  | c :: rest, behind => do
    setLetter c on
    setLetters on rest behind

/-- A shell that is to control jobs cannot, since it has no terminal; those inside it do not try. -/
def settleMonitor : Run Unit := do
  let state ← get
  if state.hasOption "monitor" ∧ !state.isSubshell then
    warn "can't access tty; job control turned off"
    setOption "monitor" false

/-- The arguments of the shell are replaced. -/
def setArguments (arguments : List String) : Run Unit :=
  modify fun state => { state with arguments, optionPlace := {} }

/-- Options are set as the front of some arguments says; what is left, if arguments are to be
replaced by it. -/
def setOptions : (count : Nat) → List String → Run (Option (List String))
  | 0, _ => return none
  | _, [] => return none
  | count + 1, argument :: rest =>
    match argument.toList with
    | ['-'] => do
      setOption "xtrace" false
      setOption "verbose" false
      return if rest.isEmpty then none else some rest
    | ['-', '-'] => return some rest
    | '-' :: letters => do setOptions count (← setLetters true letters rest)
    | '+' :: letters => do setOptions count (← setLetters false letters rest)
    | _ => return some (argument :: rest)

/-- The builtin `set`. -/
def runSet : Builtin := fun arguments => do
  if arguments.isEmpty then listVariables "" fun v => v.value.isSome
  else
    let replaced ← setOptions arguments.length arguments
    settleMonitor
    match replaced with
    | some arguments => setArguments arguments
    | none => pure ()
  return 0

/-- The builtin `shift`. -/
def runShift : Builtin := fun arguments => do
  let count ←
    match arguments with
    | argument :: _ => numberOf argument
    | [] => pure 1
  let state ← get
  if state.arguments.length < count then fault "can't shift that many"
  setArguments (state.arguments.drop count)
  return 0

/-! ### Options of scripts -/

/-- The next letter of the arguments: the letters that are left in its argument, and the number of
the argument behind it. -/
def nextLetter? (place : OptionPlace) (arguments : List String) : List Char × Nat :=
  let current :=
    match place.character with
    | some n =>
      if 1 < place.argument then ((arguments[place.argument - 2]?).getD "").toList.drop n else []
    | none => []
  if !current.isEmpty then (current, place.argument)
  else
    match (arguments[place.argument - 1]?).map String.toList with
    | some ['-', '-'] => ([], place.argument + 1)
    | some ('-' :: c :: rest) => (c :: rest, place.argument + 1)
    | _ => ([], place.argument)

/-- What a letter is in a list of options: unknown, or whether it takes a word. -/
def letterIn? (c : Char) : List Char → Option Bool
  | [] => none
  | d :: rest =>
    if d = c then some (rest.head? = some ':')
    else
      match rest with
      | ':' :: more => letterIn? c more
      | rest => letterIn? c rest

/-- The search for the next option of arguments: the letter that was found, and how far the search
has come. -/
def readOption (isQuiet : Bool) (options : List Char) (arguments : List String) (c : Char)
    (rest : List Char) (next : Nat) : Run (Char × OptionPlace) := do
  let state ← get
  let behind : OptionPlace :=
    { argument := next
      character :=
        (arguments[next - 2]?).map fun argument => argument.length - rest.length }
  let complain (text : String) : Run Char := do
    if isQuiet then
      assign "OPTARG" (String.singleton c)
      return ':'
    else
      writeError (text ++ "\n")
      if (state.lookup "OPTARG").isSome then unset "OPTARG"
      return '?'
  match letterIn? c options with
  | none =>
    let _ ← complain ("Illegal option -" ++ String.singleton c)
    return ('?', behind)
  | some false =>
    assign "OPTARG" ""
    return (c, behind)
  | some true =>
    if !rest.isEmpty then
      assign "OPTARG" (String.ofList rest)
      return (c, { argument := next })
    else
      match arguments[next - 1]? with
      | some word =>
        assign "OPTARG" word
        return (c, { argument := next + 1 })
      | none =>
        let shown ← complain ("No arg for -" ++ String.singleton c ++ " option")
        return (shown, behind)

/-- The builtin `getopts`. -/
def runGetopts : Builtin := fun words => do
  match words with
  | options :: name :: given =>
    let state ← get
    let arguments := if given.isEmpty then state.arguments else given
    let place :=
      if arguments.length + 1 < state.optionPlace.argument then {} else state.optionPlace
    let isQuiet := options.toList.head? = some ':'
    let letters := if isQuiet then options.toList.tail else options.toList
    let (found, next) := nextLetter? place arguments
    let (shown, behind) ←
      match found with
      | c :: rest => readOption isQuiet letters arguments c rest next
      | [] => pure ('?', { argument := next })
    let setPlace (place : OptionPlace) : Run Unit :=
      modify fun state => { state with optionPlace := place }
    assign "OPTIND" (numeral behind.argument)
    setPlace place
    assignTo name (String.singleton shown)
    setPlace behind
    return if found.isEmpty then 1 else 0
  | _ => fault "Usage: getopts optstring var [arg...]"

end RoutineTiming.Shell
