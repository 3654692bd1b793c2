import RoutineTiming.Shell.State

/-!
# Arguments of builtins

A builtin gets the words behind its name. Many of them begin with options, which are letters behind
a dash; several letters can stand behind one dash, and two dashes end the options.

## Main definitions

* `Shell.Builtin` : a builtin.
* `Shell.takeOptions` : the options at the front of arguments.
-/

namespace RoutineTiming.Shell

/-- A builtin: what it does with its arguments. -/
abbrev Builtin := List String → Run Nat

/-- An option with the word that belongs to it, which is empty if the option takes none. -/
abbrev GivenOption := Char × String

/-- The options in the letters behind a dash, and the one that takes the next argument as its word,
if the last one does. It is told of each letter whether it takes a word. -/
def takeLetters (letters : List (Char × Bool)) : List Char → Run (List GivenOption × Option Char)
  | [] => return ([], none)
  | c :: rest =>
    match letters.lookup c with
    | none => fault ("Illegal option -" ++ String.singleton c)
    | some true =>
      if rest.isEmpty then return ([], some c) else return ([(c, String.ofList rest)], none)
    | some false => do
      let (more, waiting) ← takeLetters letters rest
      return ((c, "") :: more, waiting)

/-- The options at the front of arguments, and the arguments behind. -/
def takeOptions (letters : List (Char × Bool)) : List String → Run (List GivenOption × List String)
  | [] => return ([], [])
  | argument :: rest =>
    match argument.toList with
    | ['-', '-'] => return ([], rest)
    | '-' :: c :: more => do
      let (options, waiting) ← takeLetters letters (c :: more)
      match waiting, rest with
      | none, rest =>
        let (others, rest) ← takeOptions letters rest
        return (options ++ others, rest)
      | some c, word :: rest =>
        let (others, rest) ← takeOptions letters rest
        return (options ++ (c, word) :: others, rest)
      | some c, [] => fault ("No arg for -" ++ String.singleton c ++ " option")
    | _ => return ([], argument :: rest)

/-- The arguments of a builtin that has no options. -/
def takeNoOptions (arguments : List String) : Run (List String) := do
  return (← takeOptions [] arguments).2

end RoutineTiming.Shell
