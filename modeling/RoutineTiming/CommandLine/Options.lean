import RoutineTiming.Decimal.Basic
import RoutineTiming.Measurement
import RoutineTiming.Text.Numeral

/-!
# Command line options

The options of the program are read from its arguments, and from variables where no argument gives
them. A long option has its value behind an equals sign or as the next argument; a short one also
directly behind its letter. Arguments are checked one after the other, so that a request for help
counts only if nothing before it is wrong.

## Main definitions

* `Options` : how a plan is to be measured.
* `Request` : what the command line asks for.
* `readRequest` : the request of arguments and variables.
-/

namespace RoutineTiming

/-- How a plan is to be measured. -/
structure Options where
  plan : String := "bench.toml"
  repetitions : Nat := 10
  swampFactor : Binary64 := 3
  statistic : Statistic := .mean
  maxDoublings : Nat := 20
  /-- The directories in front of the search path for libraries. -/
  libDirs : List String := []
  /-- The directories in front of the search path for routines. -/
  routineDirs : List String := []
  /-- The routines to measure; none stands for all. -/
  only : List String := []
  json : Bool := false
  verbose : Bool := false

/-- What a command line asks for. -/
inductive Request where
  | measure (options : Options)
  | help
  | version

/-- The options that are given by a name. -/
inductive OptionName where
  | plan
  | repetitions
  | swampFactor
  | statistic
  | maxDoublings
  | libDir
  | routineDir
  | only
  | json
  | verbose
  | help
  | version
  deriving DecidableEq, Repr

namespace OptionName

/-- The long names. -/
def ofLong? : String → Option OptionName
  | "plan" => some .plan
  | "repetitions" => some .repetitions
  | "swamp-factor" => some .swampFactor
  | "statistic" => some .statistic
  | "max-doublings" => some .maxDoublings
  | "lib-dir" => some .libDir
  | "routine-dir" => some .routineDir
  | "only" => some .only
  | "json" => some .json
  | "verbose" => some .verbose
  | "help" => some .help
  | "version" => some .version
  | _ => none

/-- The short names. -/
def ofShort? : Char → Option OptionName
  | 'n' => some .repetitions
  | 'v' => some .verbose
  | 'h' => some .help
  | 'V' => some .version
  | _ => none

/-- The option has a value. -/
def takesValue : OptionName → Bool
  | .json => false
  | .verbose => false
  | .help => false
  | .version => false
  | _ => true

/-- The option may be given more than once. -/
def mayRepeat : OptionName → Bool
  | .libDir => true
  | .routineDir => true
  | .only => true
  | _ => false

/-- The variable that gives the option where no argument does. -/
def variableName? : OptionName → Option String
  | .plan => some "RTBENCH_PLAN"
  | .repetitions => some "RTBENCH_REPETITIONS"
  | .swampFactor => some "RTBENCH_SWAMP_FACTOR"
  | .libDir => some "RTBENCH_LIB_DIR"
  | .routineDir => some "RTBENCH_ROUTINE_DIR"
  | _ => none

end OptionName

/-! ### Values -/

/-- The largest number of doublings. -/
def maxDoublingsLimit : Nat := 2 ^ 32 - 1

/-- The number of doublings that a text denotes; zero may have a minus sign. -/
def readDoublings? (text : String) : Option Nat :=
  match text.toList with
  | '-' :: digits =>
    if digits ≠ [] ∧ digits.all (· = '0') then some 0 else none
  | _ => readNumeral? maxDoublingsLimit text

/-- The statistic that a text names. -/
def readStatistic? : String → Option Statistic
  | "mean" => some .mean
  | "min" => some .min
  | _ => none

/-- Directories with separators between them; none of them is empty. -/
def readDirectories? (separator text : String) : Option (List String) :=
  let directories := text.splitOn separator
  if directories.contains "" then none else some directories

namespace Options

/-- The options with a value for one of them; `none` if it cannot have that value. -/
def set? (options : Options) (name : OptionName) (value : String) : Option Options :=
  match name with
  | .plan => if value = "" then none else some { options with plan := value }
  | .repetitions => (readNumeral? maxWord value).map fun n => { options with repetitions := n }
  | .swampFactor => (Binary64.read? value).map fun x => { options with swampFactor := x }
  | .statistic => (readStatistic? value).map fun s => { options with statistic := s }
  | .maxDoublings => (readDoublings? value).map fun n => { options with maxDoublings := n }
  | .libDir => (readDirectories? ":" value).map fun directories =>
      { options with libDirs := options.libDirs ++ directories }
  | .routineDir => (readDirectories? " " value).map fun directories =>
      { options with routineDirs := options.routineDirs ++ directories }
  | .only => some { options with only := options.only ++ [value] }
  | .json => some { options with json := true }
  | .verbose => some { options with verbose := true }
  | .help => some options
  | .version => some options

end Options

/-! ### Arguments -/

/-- An option with its value, as it stands in the arguments. -/
inductive Given where
  /-- An option without a value. -/
  | flag (name : OptionName)
  | value (name : OptionName) (text : String)
  /-- An option whose value is the next argument. -/
  | awaiting (name : OptionName)
  deriving DecidableEq, Repr

/-- The option of a long argument, from behind its dashes. -/
def readLong? (text : List Char) : Option Given := do
  let name ← OptionName.ofLong? (String.ofList (text.takeWhile (· ≠ '=')))
  match text.dropWhile (· ≠ '='), name.takesValue with
  | [], true => some (.awaiting name)
  | _ :: value, true => some (.value name (String.ofList value))
  | [], false => some (.flag name)
  | _ :: _, false => none

/-- The options of short letters in one argument, each `none` if there is no such option; the first
one with a value takes the rest. -/
def readShort : List Char → List (Option Given)
  | [] => []
  | letter :: rest =>
    match OptionName.ofShort? letter with
    | none => [none]
    | some name =>
      if name.takesValue then
        match rest with
        | [] => [some (.awaiting name)]
        | '=' :: value => [some (.value name (String.ofList value))]
        | value => [some (.value name (String.ofList value))]
      else
        some (.flag name) :: readShort rest

/-- The options of an argument from behind its first dash. -/
def readDashed : List Char → List (Option Given)
  | '-' :: text => [readLong? text]
  | letters => readShort letters

/-- Where the reading of arguments stands. -/
structure Reading where
  options : Options := {}
  /-- The options given so far. -/
  given : List OptionName := []
  /-- The option whose value is the next argument. -/
  awaiting : Option OptionName := none

namespace Reading

/-- The reading after an option with its value; an option that may not repeat is given once. -/
def take? (reading : Reading) (name : OptionName) (value : String) : Option Reading :=
  if reading.given.contains name && !name.mayRepeat then
    none
  else
    (reading.options.set? name value).map fun options =>
      { options, given := name :: reading.given, awaiting := none }

end Reading

/-- The reading after options of one argument, or a request that ends it. -/
def takeGiven (reading : Reading) : List (Option Given) → Option (Reading ⊕ Request)
  | [] => some (.inl reading)
  | none :: _ => none
  | some (.flag .help) :: _ => some (.inr .help)
  | some (.flag .version) :: _ => some (.inr .version)
  | some (.flag name) :: rest => do
    let reading ← reading.take? name ""
    takeGiven reading rest
  | some (.value name text) :: rest => do
    let reading ← reading.take? name text
    takeGiven reading rest
  | some (.awaiting name) :: _ => some (.inl { reading with awaiting := some name })

/-- The argument is an option and not a value; a single dash is a value. -/
def isDashed (argument : List Char) : Bool :=
  match argument with
  | '-' :: _ :: _ => true
  | _ => false

/-- The reading after all arguments, or a request that ends it. Two dashes end the options, and
nothing may follow them. -/
def takeArguments (reading : Reading) : List String → Option (Reading ⊕ Request)
  | [] => if reading.awaiting = none then some (.inl reading) else none
  | argument :: rest =>
    let text := argument.toList
    match reading.awaiting with
    | some name =>
      if isDashed text then none
      else do
        let reading ← reading.take? name argument
        takeArguments reading rest
    | none =>
      if !isDashed text then none
      else if text = ['-', '-'] then
        if rest = [] then some (.inl reading) else none
      else do
        match ← takeGiven reading (readDashed text.tail) with
        | .inl reading => takeArguments reading rest
        | .inr request => some (.inr request)

/-- The options that variables may give, in the order in which they are looked at. -/
def variableOptions : List OptionName :=
  [.plan, .repetitions, .swampFactor, .libDir, .routineDir]

/-- The reading after the variables of options that no argument gave. -/
def takeVariables (environment : String → Option String) (reading : Reading) :
    List OptionName → Option Reading
  | [] => some reading
  | name :: rest => do
    let value := name.variableName?.bind environment
    match value with
    | some text =>
      if reading.given.contains name then
        takeVariables environment reading rest
      else do
        let reading ← reading.take? name text
        takeVariables environment reading rest
    | none => takeVariables environment reading rest

/-- The request of arguments and variables; `none` if the command line is wrong. -/
def readRequest (arguments : List String) (environment : String → Option String) :
    Option Request := do
  match ← takeArguments {} arguments with
  | .inr request => some request
  | .inl reading => do
    let reading ← takeVariables environment reading variableOptions
    return .measure reading.options

end RoutineTiming
