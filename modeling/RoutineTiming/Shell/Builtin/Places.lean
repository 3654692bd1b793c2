import RoutineTiming.Shell.Builtin.Basic
import RoutineTiming.Shell.Lexer
import RoutineTiming.Shell.Variables
import RoutineTiming.Text.Radix

/-!
# Builtins for the place of a shell

The builtins that change and print the directory of the shell, and the permissions that new files do
not get.

## Main definitions

* `Shell.placeBehind` : the place to which a path leads by its names alone.
* `Shell.runCd`, `Shell.runPwd` : the directory.
* `Shell.runUmask` : the permissions.
-/

namespace RoutineTiming.Shell

/-! ### Directories -/

/-- The path of a place. -/
def placePath (place : Place) : String := "/" ++ "/".intercalate place

/-- The place to which a path leads by its names alone, where two dots take a name away. -/
def placeBehind (place : Place) (path : String) : Place :=
  let start := if path.toList.head? = some '/' then [] else place
  (path.splitOn "/").foldl (fun place name =>
    if name = "" ∨ name = "." then place
    else if name = ".." then place.dropLast
    else place ++ [name]) start

/-- The shell goes to a directory; the result says whether it could. -/
def goTo (path : String) : Run Bool := do
  let state ← get
  let place := placeBehind state.process.directory path
  match state.world.files.resolveFrom [] (placePath place) with
  | .ok (_, .directory) =>
    let old := placePath state.process.directory
    set { state with process := { state.process with directory := place } }
    assignExported "OLDPWD" old
    assignExported "PWD" (placePath place)
    return true
  | _ => return false

/-- The path begins at a place of its own, which is not searched for. -/
def isAnchored (path : String) : Bool :=
  match (path.splitOn "/").head? with
  | some first => first = "" && path ≠ "" || first = "." || first = ".."
  | none => false

/-- The first path to a directory behind those of a search path, and whether it is to be printed. -/
def searchDirectory (state : State) (path : String) : Option (String × Bool) :=
  match state.value? "CDPATH" with
  | none => none
  | some directories =>
    (directories.splitOn ":").findSome? fun directory =>
      let target := if directory = "" then path else directory ++ "/" ++ path
      match state.world.files.resolveFrom state.process.directory target with
      | .ok (_, .directory) => some (target, directory ≠ "")
      | _ => none

/-- The options for a directory, which make no difference where there are no links. -/
def directoryOptions : List (Char × Bool) := [('L', false), ('P', false)]

/-- The directory of the shell is printed. -/
def printDirectory : Run Unit := do
  print (placePath (← get).process.directory ++ "\n")

/-- The builtin `cd`. -/
def runCd : Builtin := fun arguments => do
  let (_, arguments) ← takeOptions directoryOptions arguments
  let state ← get
  let (path, isBack) :=
    match arguments with
    | "-" :: _ => ((state.value? "OLDPWD").getD "", true)
    | path :: _ => (path, false)
    | [] => ((state.value? "HOME").getD "", false)
  let searched := if path = "" then "." else path
  let found := if isAnchored path then none else searchDirectory state searched
  let (target, isShown) := found.getD (path, false)
  if ← goTo target then
    if isBack || isShown then printDirectory
    return 0
  else fault ("can't cd to " ++ path)

/-- The builtin `pwd`. -/
def runPwd : Builtin := fun arguments => do
  let _ ← takeOptions directoryOptions arguments
  printDirectory
  return 0

/-! ### Permissions -/

/-- The letters of three permissions. -/
def permissionLetters (n : Nat) : String :=
  String.ofList (([('r', 4), ('w', 2), ('x', 1)] : List (Char × Nat)).filterMap fun (c, bit) =>
    if n / bit % 2 = 1 then some c else none)

/-- The users with the place of their permissions. -/
def userFactors : List (Char × Nat) := [('u', 64), ('g', 8), ('o', 1)]

/-- Permissions in words. -/
def permissionText (mask : Nat) : String :=
  ",".intercalate (userFactors.map fun (c, factor) =>
    String.singleton c ++ "=" ++ permissionLetters (7 - mask / factor % 8))

/-- The permissions of one user among those of all. -/
def permissionsOf (granted factor : Nat) : Nat := granted / factor % 8

/-- The permissions that a letter names; a user stands for those that this user had. -/
def namedPermissions? (old : Nat) (letter : Char) : Option Nat :=
  match letter with
  | 'r' => some 4
  | 'w' => some 2
  | 'x' => some 1
  | 'X' => some (if userFactors.any fun e => permissionsOf old e.2 % 2 = 1 then 1 else 0)
  | 's' => some 0
  | user => (userFactors.lookup user).map (permissionsOf old)

/-- The permissions after some users got, lost, or got instead of theirs those that are named. -/
def changePermissions (granted : Nat) (factors : List Nat) (operator : Char) (named : Nat) : Nat :=
  factors.foldl (fun granted factor =>
    let old := permissionsOf granted factor
    let new :=
      match operator with
      | '+' => old ||| named
      | '-' => old - (old &&& named)
      | _ => named
    granted - old * factor + new * factor) granted

/-- The permissions after changes for the same users, which are given in words, each by a sign and
letters, and the text behind. -/
def takeChanges (old : Nat) (factors : List Nat) : (fuel : Nat) → Nat → List Char → Nat × List Char
  | fuel + 1, granted, operator :: text =>
    if ['+', '-', '='].contains operator then
      let named := (text.map (namedPermissions? old)).takeWhile Option.isSome
      let all := (named.filterMap id).foldl (· ||| ·) 0
      takeChanges old factors fuel (changePermissions granted factors operator all)
        (text.drop named.length)
    else (granted, operator :: text)
  | _, granted, text => (granted, text)

/-- The permissions after changes that are given in words, with a comma between those for different
users. -/
def readChanges? (old : Nat) : (fuel : Nat) → Nat → List Char → Option Nat
  | 0, _, _ => none
  | _, granted, [] => some granted
  | fuel + 1, granted, text =>
    let users := text.takeWhile fun c => c = 'a' || (userFactors.lookup c).isSome
    let factors :=
      userFactors.filter fun e => users.isEmpty || users.contains 'a' || users.contains e.1
    let (changed, behind) :=
      takeChanges old (factors.map Prod.snd) text.length granted (text.drop users.length)
    match behind with
    | [] => some changed
    | ',' :: rest =>
      if behind.length < text.length - users.length then
        readChanges? old fuel changed rest
      else
        none
    | _ => none

/-- The permissions that a mode in words leaves out, where they are given by what they were. -/
def readMode? (mask : Nat) (text : String) : Option Nat :=
  (readChanges? (0o777 - mask) (text.length + 1) (0o777 - mask) text.toList).map (0o777 - ·)

/-- The builtin `umask`. -/
def runUmask : Builtin := fun arguments => do
  let (options, arguments) ← takeOptions [('S', false)] arguments
  let mask := (← get).mask
  match arguments with
  | [] =>
    if options.isEmpty then
      let digits := Nat.toDigits 8 mask
      print (String.ofList (List.replicate (4 - digits.length) '0' ++ digits ++ ['\n']))
    else print (permissionText mask ++ "\n")
  | mode :: _ =>
    let isNumber := mode.toList.head?.any Char.isDigit
    if isNumber ∧ !mode.toList.all isOctalDigit then badNumber mode
    let new := if isNumber then some (radixValue 8 mode.toList % 0o1000) else readMode? mask mode
    match new with
    | some mask => modify fun state => { state with mask }
    | none => fault ("Illegal mode: " ++ mode)
  return 0

end RoutineTiming.Shell
