import RoutineTiming.Process.Launch
import RoutineTiming.Proofs.ByteOrder
import RoutineTiming.Proofs.KeyedStore

/-!
# The variables of a process

A search path is made of segments, which are joined by the separator of its variable: directories
for routines stand in front of directories for libraries, those in front of the search path of the
plan, and this in front of what the variable already holds. The variables with search paths are set
after those with fixed values, in the order of their names.

A variable is seen with the value that it was given last. So where a variable has a fixed value and
a search path is placed in front of it as well, the fixed value is lost.

## Main definitions

* `Runtime.segments` : what the search path of a variable is made of.
* `Runtime.separator` : what stands between the segments.
* `Runtime.Searches` : the variables with search paths.

## Main results

* `Runtime.get?_searchPaths` : the search path of a variable.
* `Runtime.environment_segments` : the variables of a process in order.
* `Runtime.lastValue?_environment` : what a process sees for a variable.
* `Runtime.fixed_value_iff` : when a fixed value is kept.
-/

namespace RoutineTiming

/-! ### The value that counts -/

theorem lastValue?_eq (env : List (String × String)) (x : String) :
    lastValue? env x = lastValue x env := by
  induction env with
  | nil => rfl
  | cons e env ih =>
    rw [lastValue, ← ih, lastValue?, lastValue?, List.reverse_cons, List.find?_append,
      Option.map_or, List.find?_singleton]
    by_cases hx : x = e.1
    · simp [hx]
    · simp [hx, Ne.symm hx]

/-! ### Search paths as segments -/

/-- The search path of the segments, if there are any. -/
def joinedPath (separator : String) (segments : List String) : Option SearchPath :=
  if segments = [] then none else some ⟨separator.intercalate segments, separator⟩

theorem joinedPath_of_ne_nil (separator : String) {segments : List String} (h : segments ≠ []) :
    joinedPath separator segments = some ⟨separator.intercalate segments, separator⟩ :=
  if_neg h

/-- Directories in front of a search path are segments in front of its segments. Where there was no
search path, it gets the default separator. -/
theorem behind_joinedPath {directories : List String} (h : directories ≠ [])
    (separator defaultSeparator : String) (segments : List String) :
    some (SearchPath.behind directories defaultSeparator (joinedPath separator segments)) =
      joinedPath (if segments = [] then defaultSeparator else separator)
        (directories ++ segments) := by
  have hne : directories ++ segments ≠ [] := fun hnil => h (List.append_eq_nil_iff.mp hnil).1
  rw [joinedPath_of_ne_nil _ hne]
  by_cases hsegments : segments = []
  · rw [if_pos hsegments, hsegments, List.append_nil]
    rfl
  · rw [if_neg hsegments, joinedPath_of_ne_nil _ hsegments,
      String.intercalate_append_of_ne_nil h hsegments]
    rfl

theorem get?_pushFront {paths : OrderedMap String SearchPath} {separator x : String}
    {segments : List String} (h : paths.get? x = joinedPath separator segments) (name : String)
    (directories : List String) (defaultSeparator : String) :
    (pushFront paths name directories defaultSeparator).get? x =
      joinedPath (if segments = [] ∧ x = name then defaultSeparator else separator)
        ((if x = name then directories else []) ++ segments) := by
  rw [pushFront]
  by_cases hx : x = name
  · simp only [hx, and_true, if_true] at h ⊢
    by_cases hdirectories : directories = []
    · rw [if_pos hdirectories, hdirectories, List.nil_append, h, joinedPath, joinedPath]
      split <;> rfl
    · rw [if_neg hdirectories, OrderedMap.get?_insert, if_pos rfl, h,
        behind_joinedPath hdirectories]
  · simp only [hx, and_false, if_false, List.nil_append]
    split
    · exact h
    · rw [OrderedMap.get?_insert, if_neg hx, h]

/-- What a variable already holds, if this is anything. -/
def heldSegments (inherited : Option String) : List String :=
  (inherited.filter fun existing => existing ≠ "").toList

/-- What a variable already holds is the last segment. -/
theorem before_joined (separator : String) {segments : List String} (h : segments ≠ [])
    (inherited : Option String) :
    SearchPath.before ⟨separator.intercalate segments, separator⟩ inherited =
      separator.intercalate (segments ++ heldSegments inherited) := by
  cases inherited with
  | none => exact congrArg separator.intercalate (List.append_nil segments).symm
  | some existing =>
    rw [SearchPath.before]
    by_cases hempty : existing = ""
    · have hheld : heldSegments (some existing) = [] := by simp [heldSegments, hempty]
      rw [if_pos hempty, hheld, List.append_nil]
    · have hheld : heldSegments (some existing) = [existing] := by simp [heldSegments, hempty]
      rw [if_neg hempty, hheld, String.intercalate_append_of_ne_nil h (List.cons_ne_nil _ _),
        String.intercalate_singleton]

/-! ### The search path of a variable -/

namespace Runtime

variable (runtime : Runtime) (libDirs routineDirs : List String)

/-- The variables with search paths. -/
def Searches (x : String) : Prop :=
  x ∈ runtime.prepend.keys ∨ x = libraryPathVar ∧ libDirs ≠ [] ∨
    x = runtime.routinePathVar ∧ routineDirs ≠ []

/-- What stands between the segments of a search path: the separator of the plan, or else a colon
behind directories for libraries and a space behind directories for routines alone. -/
def separator (x : String) : String :=
  match runtime.prepend.get? x with
  | some path => path.separator
  | none => if x = libraryPathVar ∧ libDirs ≠ [] then ":" else " "

/-- What the plan and the directories make the search path of a variable of. -/
def segments (x : String) : List String :=
  (if x = runtime.routinePathVar then routineDirs else []) ++
    ((if x = libraryPathVar then libDirs else []) ++
      ((runtime.prepend.get? x).map SearchPath.value).toList)

variable {libDirs routineDirs} in
/-- The variables with search paths are those that have segments. -/
theorem segments_ne_nil_iff {x : String} :
    runtime.segments libDirs routineDirs x ≠ [] ↔ runtime.Searches libDirs routineDirs x := by
  have hdirs (c : Prop) [Decidable c] (dirs : List String) :
      (if c then dirs else []) ≠ [] ↔ c ∧ dirs ≠ [] := by
    split <;> simp [*]
  have hplan : ((runtime.prepend.get? x).map SearchPath.value).toList ≠ [] ↔
      runtime.prepend.get? x ≠ none := by
    cases runtime.prepend.get? x <;> simp
  rw [Searches, OrderedMap.mem_keys_iff, ← hplan, ← hdirs, ← hdirs, segments, Ne,
    List.append_eq_nil_iff, List.append_eq_nil_iff]
  tauto

/-- The search path of a variable joins its segments. -/
theorem get?_searchPaths (x : String) :
    (runtime.searchPaths libDirs routineDirs).get? x =
      joinedPath (runtime.separator libDirs x) (runtime.segments libDirs routineDirs x) := by
  have hplan : runtime.prepend.get? x =
      joinedPath (((runtime.prepend.get? x).map SearchPath.separator).getD " ")
        ((runtime.prepend.get? x).map SearchPath.value).toList := by
    cases runtime.prepend.get? x <;> simp [joinedPath]
  rw [searchPaths, get?_pushFront (get?_pushFront hplan _ _ _), separator, segments]
  cases runtime.prepend.get? x with
  | some path => simp
  | none =>
    by_cases hlib : x = libraryPathVar ∧ libDirs ≠ []
    · simp [hlib]
    · have hnone : (if x = libraryPathVar then libDirs else []) = [] := by
        rw [ite_eq_right_iff]
        exact fun hx => Classical.not_not.mp fun hne => hlib ⟨hx, hne⟩
      rw [if_neg hlib, hnone]
      -- Without directories for routines there is no segment, and so no separator that matters.
      by_cases hroutine : x = runtime.routinePathVar
      · simp [hroutine]
      · simp [hroutine, joinedPath]

/-! ### The variables of a process -/

variable (inherited : String → Option String)

/-- What a process sees for a variable with a search path. -/
def searchValue (x : String) : String :=
  (runtime.separator libDirs x).intercalate
    (runtime.segments libDirs routineDirs x ++ heldSegments (inherited x))

theorem mem_keys_searchPaths_iff {x : String} :
    x ∈ (runtime.searchPaths libDirs routineDirs).keys ↔
      runtime.Searches libDirs routineDirs x := by
  rw [OrderedMap.mem_keys_iff, get?_searchPaths, ← segments_ne_nil_iff, joinedPath]
  split <;> simp [*]

/-- The fixed values are set first, and then the search paths. -/
theorem environment_eq :
    runtime.environment libDirs routineDirs inherited = runtime.env.entries ++
      (runtime.searchPaths libDirs routineDirs).keys.map fun x =>
        (x, runtime.searchValue libDirs routineDirs inherited x) := by
  rw [environment, OrderedMap.keys, List.map_map]
  refine congrArg _ (List.map_congr_left fun e he => ?_)
  have hsearch : runtime.Searches libDirs routineDirs e.1 :=
    (mem_keys_searchPaths_iff ..).mp (List.mem_map_of_mem he)
  have hne := (segments_ne_nil_iff runtime).mpr hsearch
  have hpath := (OrderedMap.mem_entries_iff _ _ _).mp he
  rw [get?_searchPaths, joinedPath_of_ne_nil _ hne] at hpath
  have hvalue := before_joined (runtime.separator libDirs e.1) hne (inherited e.1)
  rw [Option.some.inj hpath] at hvalue
  exact congrArg (Prod.mk e.1) hvalue

/-- **The variables of a process.** The fixed values of the plan are set first, in the order of the
names. Then each variable with a search path is set once, in the order of the names, to its
segments and what it already holds, joined by its separator. What other variables already hold does
not matter. -/
theorem environment_segments :
    ∃ (fixed : List (String × String)) (names : List String),
      runtime.environment libDirs routineDirs inherited =
        fixed ++ names.map (fun x => (x, (runtime.separator libDirs x).intercalate
          (runtime.segments libDirs routineDirs x ++ heldSegments (inherited x)))) ∧
      (fixed.Pairwise fun e e' => utf8Bytes e.1 < utf8Bytes e'.1) ∧
      (∀ x v, (x, v) ∈ fixed ↔ runtime.env.get? x = some v) ∧
      (names.Pairwise fun x y => utf8Bytes x < utf8Bytes y) ∧
      (∀ x, x ∈ names ↔ runtime.Searches libDirs routineDirs x) ∧
      ∀ inherited' : String → Option String, (∀ x ∈ names, inherited' x = inherited x) →
        runtime.environment libDirs routineDirs inherited' =
          runtime.environment libDirs routineDirs inherited := by
  refine ⟨runtime.env.entries, (runtime.searchPaths libDirs routineDirs).keys,
    environment_eq .., ?_, runtime.env.mem_entries_iff, ?_,
    fun x => mem_keys_searchPaths_iff .., fun inherited' hsame => ?_⟩
  · exact runtime.env.ascending.imp compare_eq_lt_iff_utf8Bytes.mp
  · exact List.pairwise_map.mpr
      ((runtime.searchPaths libDirs routineDirs).ascending.imp compare_eq_lt_iff_utf8Bytes.mp)
  · rw [environment_eq, environment_eq]
    refine congrArg _ (List.map_congr_left fun x hx => ?_)
    rw [searchValue, searchValue, hsame x hx]

/-- The directories for routines stand in front of those for libraries if both are for one
variable, and an empty variable is no segment. -/
example :
    let runtime : Runtime := { program := "m", routinePathVar := "LD_LIBRARY_PATH" }
    runtime.environment ["l", "k"] ["r"] (fun _ => some "") = [("LD_LIBRARY_PATH", "r:l:k")] := by
  decide +kernel

/-! ### Fixed values -/

instance (x : String) : Decidable (runtime.Searches libDirs routineDirs x) :=
  inferInstanceAs (Decidable (_ ∨ _))

/-- A process sees the search path of a variable, or else its fixed value. -/
theorem lastValue?_environment (x : String) :
    lastValue? (runtime.environment libDirs routineDirs inherited) x =
      if runtime.Searches libDirs routineDirs x then
        some (runtime.searchValue libDirs routineDirs inherited x)
      else runtime.env.get? x := by
  rw [lastValue?_eq, environment_eq, lastValue_append, lastValue_map_mk,
    OrderedMap.lastValue_entries]
  simp only [mem_keys_searchPaths_iff]
  split
  · rw [Option.some_or]
  · rw [Option.none_or]

variable {runtime libDirs routineDirs inherited}

/-- **Search paths take the place of fixed values.** A process sees the fixed value of a variable if
the variable has no search path. Otherwise it sees the search path, and the fixed value is lost but
where the search path happens to end with it. -/
theorem fixed_value_iff {x v : String} (h : runtime.env.get? x = some v) :
    (¬ runtime.Searches libDirs routineDirs x →
      lastValue? (runtime.environment libDirs routineDirs inherited) x = some v) ∧
    (runtime.Searches libDirs routineDirs x →
      lastValue? (runtime.environment libDirs routineDirs inherited) x =
        some (runtime.searchValue libDirs routineDirs inherited x)) ∧
    ((∃ front, lastValue? (runtime.environment libDirs routineDirs inherited) x =
        some (front ++ v)) ↔
      ¬ runtime.Searches libDirs routineDirs x ∨
        ∃ front, runtime.searchValue libDirs routineDirs inherited x = front ++ v) := by
  rw [lastValue?_environment, h]
  by_cases hsearch : runtime.Searches libDirs routineDirs x
  · simp only [hsearch, if_true, not_true_eq_false, false_or, Option.some.injEq, true_implies,
      false_implies, true_and]
  · simp only [hsearch, if_false, not_false_eq_true, true_or, iff_true, true_implies,
      false_implies, true_and, Option.some.injEq]
    exact ⟨"", String.empty_append.symm⟩

/-- A runtime with two fixed values, one of them for the search path for libraries. -/
def fixedRuntime : Runtime where
  program := "m"
  env := .ofList [("a", "1"), (libraryPathVar, "/plan")]

/-- If there are directories for libraries, then one of the two fixed values is kept. -/
theorem fixed_value_iff_fixedRuntime :
    lastValue? (fixedRuntime.environment ["build"] [] fun _ => none) "a" = some "1" ∧
    lastValue? (fixedRuntime.environment ["build"] [] fun _ => none) libraryPathVar =
      some "build" := by
  have hkept : fixedRuntime.env.get? "a" = some "1" := by decide +kernel
  have hlost : fixedRuntime.env.get? libraryPathVar = some "/plan" := by decide +kernel
  have hvalue : fixedRuntime.searchValue ["build"] [] (fun _ => none) libraryPathVar = "build" := by
    decide +kernel
  have hsearch : fixedRuntime.Searches ["build"] [] libraryPathVar :=
    .inr (.inl ⟨rfl, List.cons_ne_nil _ _⟩)
  exact ⟨(fixed_value_iff hkept).1 (by decide +kernel),
    hvalue ▸ (fixed_value_iff hlost).2.1 hsearch⟩

/-- The fixed value of the search path for libraries is not even at the end of what a process
sees. -/
theorem fixed_value_lost :
    (libraryPathVar, "/plan") ∈ fixedRuntime.env.entries ∧
    ¬ ∃ front, lastValue? (fixedRuntime.environment ["build"] [] fun _ => none) libraryPathVar =
      some (front ++ "/plan") := by
  have hseen : lastValue? (fixedRuntime.environment ["build"] [] fun _ => none) libraryPathVar =
      some "build" := by decide +kernel
  refine ⟨by decide +kernel, ?_⟩
  rw [hseen]
  rintro ⟨front, hfront⟩
  have hslash : '/' ∈ "build".toList := by
    rw [Option.some.inj hfront, String.toList_append]
    exact List.mem_append_right _ List.mem_cons_self
  exact absurd hslash (by decide)

end Runtime

end RoutineTiming
