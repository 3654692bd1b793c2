import RoutineTiming.Plan.Basic

/-!
# The environment of a process

Every process that is launched for a plan gets the fixed variables of the plan, and then search
paths: the directories of the command line stand in front of the search paths of the plan, and those
in front of what the variable already holds.

## Main definitions

* `SearchPath.behind` : a search path with directories in front of it.
* `Runtime.searchPaths` : the search paths by variable.
* `Runtime.environment` : the variables of a process in the order in which they are set.
-/

namespace RoutineTiming

/-- The variable that holds the search path for libraries. -/
def libraryPathVar : String := "LD_LIBRARY_PATH"

/-- A search path, if there is one, with directories in front of it. -/
def SearchPath.behind (directories : List String) (defaultSeparator : String) :
    Option SearchPath → SearchPath
  | none => ⟨defaultSeparator.intercalate directories, defaultSeparator⟩
  | some path =>
    ⟨path.separator.intercalate directories ++ path.separator ++ path.value, path.separator⟩

/-- The search paths with directories, if there are any, in front of that of a variable. -/
def pushFront (paths : OrderedMap String SearchPath) (name : String)
    (directories : List String) (defaultSeparator : String) : OrderedMap String SearchPath :=
  if directories = [] then
    paths
  else
    paths.insert name (.behind directories defaultSeparator (paths.get? name))

/-- A search path in front of what its variable already holds; an empty variable counts as
unset. -/
def SearchPath.before (path : SearchPath) (inherited : Option String) : String :=
  match inherited with
  | some existing =>
    if existing = "" then path.value else path.value ++ path.separator ++ existing
  | none => path.value

namespace Runtime

/-- The search paths of the plan behind the directories for libraries and for routines. -/
def searchPaths (runtime : Runtime) (libDirs routineDirs : List String) :
    OrderedMap String SearchPath :=
  pushFront (pushFront runtime.prepend libraryPathVar libDirs ":") runtime.routinePathVar
    routineDirs " "

/-- The variables of a process: the fixed ones, then the search paths. -/
def environment (runtime : Runtime) (libDirs routineDirs : List String)
    (inherited : String → Option String) : List (String × String) :=
  runtime.env.entries ++
    (runtime.searchPaths libDirs routineDirs).entries.map fun (name, path) =>
      (name, path.before (inherited name))

end Runtime

end RoutineTiming
