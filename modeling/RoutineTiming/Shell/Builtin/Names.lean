import RoutineTiming.Shell.Builtin.Variables
import RoutineTiming.Shell.Lookup

/-!
# Builtins for names

The builtins that define aliases, and that tell what a name stands for.

## Main definitions

* `Shell.runAlias`, `Shell.runUnalias` : aliases.
* `Shell.runType`, `Shell.runCommand`, `Shell.runHash` : what names stand for.
-/

namespace RoutineTiming.Shell

/-- The complaint that there is no alias of a name, which does not say where it is made. -/
def missingAlias (builtin name : String) : Run Bool := do
  writeError (builtin ++ ": " ++ name ++ " not found\n")
  return false

/-- An alias is defined or printed, as an argument says; the result says whether there is one. -/
def handleAlias (argument : String) : Run Bool := do
  match argument.toList with
  | [] => missingAlias "alias" argument
  | first :: rest =>
    let (behind, value) := splitAssignment (String.ofList rest)
    let name := String.singleton first ++ behind
    match value, (← get).aliases.lookup name with
    | some value, _ =>
      modify fun state => { state with aliases := putEntry name value state.aliases }
      return true
    | none, some value =>
      print (assignmentText name (some value) ++ "\n")
      return true
    | none, none => missingAlias "alias" name

/-- The status of some steps: zero if all of them went well. -/
def statusOfAll (results : List Bool) : Nat := if results.all id then 0 else 1

/-- The builtin `alias`. -/
def runAlias : Builtin := fun arguments => do
  let aliases := (← get).aliases
  if arguments.isEmpty then
    (inListOrder variableLists aliases).forM fun (name, value) =>
      print (assignmentText name (some value) ++ "\n")
  return statusOfAll (← arguments.mapM handleAlias)

/-- The builtin `unalias`. -/
def runUnalias : Builtin := fun arguments => do
  let (options, names) ← takeOptions [('a', false)] arguments
  if !options.isEmpty then
    modify fun state => { state with aliases := [] }
    return 0
  else
    let results ← names.mapM fun name => do
      let state ← get
      if (state.aliases.lookup name).isSome then
        set { state with aliases := dropEntry name state.aliases }
        return true
      else missingAlias "unalias" name
    return statusOfAll results

/-- The builtin `type`. -/
def runType : Builtin := fun names => do
  let results ← names.mapM (describe true none)
  return results.foldl max 0

/-- The builtin `command` where it runs nothing. -/
def runCommand : Builtin := fun arguments => do
  let (options, names) ← takeOptions [('p', false), ('v', false), ('V', false)] arguments
  let has (letter : Char) : Bool := options.any fun o => o.1 = letter
  match names with
  | name :: _ =>
    if has 'v' || has 'V' then describe (has 'V') (if has 'p' then some standardPath else none) name
    else return 0
  | [] => return 0

/-- How many lists a shell has for the programs that it found. -/
def programLists : Nat := 31

/-- The builtin `hash`. -/
def runHash : Builtin := fun arguments => do
  let (options, names) ← takeOptions [('r', false)] arguments
  if !options.isEmpty then
    modify fun state => { state with tracked := [] }
    return 0
  else
    if names.isEmpty then
      (inListOrder programLists (← get).tracking).forM fun (_, path) => print (path ++ "\n")
    let results ← names.mapM fun name => do
      match ← lookUp false name with
      | .nothing reason =>
        warn (name ++ ": " ++ reason)
        return false
      | _ => return true
    return statusOfAll results

end RoutineTiming.Shell
