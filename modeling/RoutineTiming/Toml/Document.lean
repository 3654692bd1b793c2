import RoutineTiming.Toml.Value

/-!
# How the parts of a TOML document make one table

A document is a list of sections, each under a header that names a table or the next table of a
list. A pair in a section, or in a table on one line, may reach into further tables through a key
of several parts. The rules on which tables may be named again, and by what, are those of this
module: no table is defined twice, and no key is given two values.

## Main definitions

* `Toml.Item` : a table while the document is being put together, with how it came about.
* `Toml.Section` : a header with its pairs.
* `Toml.addPair` : a pair entered into a table.
* `Toml.addSection` : a section entered into a document.
* `Toml.assemble` : the table of all sections.
-/

namespace RoutineTiming.Toml

/-- How a table came about. -/
inductive Origin where
  /-- By a header of its own. -/
  | explicit
  /-- By the header of a table inside it. -/
  | implied
  /-- By a key of several parts. -/
  | dotted
  deriving DecidableEq

/-- What a key of an unfinished table holds. -/
inductive Item where
  /-- A finished value. -/
  | value (v : Value)
  | table (origin : Origin) (entries : List (String × Item))
  /-- A list of tables, each under a header of its own, the latest first. -/
  | tables (latestFirst : List (List (String × Item)))

/-- The entries of an unfinished table in the order of the document. -/
abbrev Entries := List (String × Item)

/-- A key of one or more parts. -/
structure Key where
  /-- The parts before the last, from the outside in. -/
  path : List String
  last : String

/-- A pair of a key and a value. -/
structure Pair where
  key : Key
  value : Value

/-- What a header says of the pairs behind it. -/
inductive Header where
  /-- They belong to the table with the given key. -/
  | table (key : Key)
  /-- They belong to a new table at the end of the list with the given key. -/
  | element (key : Key)

/-- A header with the pairs behind it. -/
structure Section where
  header : Header
  pairs : List Pair

/-! ### Entries -/

/-- What the entries hold at a key. -/
def findItem (key : String) (entries : Entries) : Option Item :=
  (entries.find? fun e => e.1 = key).map Prod.snd

/-- The entries with what they hold at a key replaced, or with a new last entry. -/
def putItem (key : String) (item : Item) : Entries → Entries
  | [] => [(key, item)]
  | (k, old) :: rest => if k = key then (k, item) :: rest else (k, old) :: putItem key item rest

/-- The entries without the entry of a key. -/
def removeItem (key : String) (entries : Entries) : Entries :=
  entries.filter fun e => e.1 ≠ key

/-! ### Reaching into tables -/

/-- The entries with a change made to the table at the end of a path. Tables that are missing on
the way come about by the given origin, the last table of a list stands for the list, and a key of
several parts does not pass through a table with a header of its own. The change is told how the
table came about. -/
def alterAt (origin : Origin) (change : Origin → Entries → Option Entries) :
    (path : List String) → (here : Origin) → Entries → Option Entries
  | [], here, entries => change here entries
  | part :: path, _, entries =>
    match findItem part entries with
    | none => do
      let inner ← alterAt origin change path origin []
      return putItem part (.table origin inner) entries
    | some (.value _) => none
    | some (.table existing inner) =>
      if origin = .dotted ∧ existing = .explicit then
        none
      else do
        let inner ← alterAt origin change path existing inner
        return putItem part (.table existing inner) entries
    | some (.tables []) => none
    | some (.tables (latest :: earlier)) => do
      let inner ← alterAt origin change path .explicit latest
      return putItem part (.tables (inner :: earlier)) entries

/-- The entries with a pair entered; the key is new, and the table that its path leads to came
about by such keys. -/
def addPair (entries : Entries) (pair : Pair) : Option Entries :=
  let enter (origin : Origin) (table : Entries) : Option Entries :=
    if (pair.key.path ≠ [] ∧ origin ≠ .dotted) ∨ (findItem pair.key.last table).isSome then
      none
    else
      some (table ++ [(pair.key.last, .value pair.value)])
  alterAt .dotted enter pair.key.path .explicit entries

/-- The entries with pairs entered one after the other. -/
def addPairs (entries : Entries) (pairs : List Pair) : Option Entries :=
  pairs.foldlM addPair entries

/-- The document with a section entered. A table may have been implied before, and is then moved
behind the other entries; a list may have been begun by the same kind of header. -/
def addSection (document : Entries) (s : Section) : Option Entries :=
  match s.header with
  | .table key =>
    let enter (_ : Origin) (table : Entries) : Option Entries :=
      let place (old : Entries) : Option Entries := do
        let inner ← addPairs old s.pairs
        return removeItem key.last table ++ [(key.last, .table .explicit inner)]
      match findItem key.last table with
      | none => place []
      | some (.table .implied inner) => place inner
      | some _ => none
    alterAt .implied enter key.path .explicit document
  | .element key =>
    let enter (_ : Origin) (table : Entries) : Option Entries := do
      let inner ← addPairs [] s.pairs
      match findItem key.last table with
      | none => return table ++ [(key.last, .tables [inner])]
      | some (.tables latestFirst) =>
        return putItem key.last (.tables (inner :: latestFirst)) table
      | some _ => none
    alterAt .implied enter key.path .explicit document

/-! ### Finished values -/

mutual

/-- The finished value of an item. -/
def Item.finish : Item → Value
  | .value v => v
  | .table _ entries => .table (finishEntries entries)
  | .tables latestFirst => .array (finishTables latestFirst).reverse

/-- The finished values of entries. -/
def finishEntries : List (String × Item) → List (String × Value)
  | [] => []
  | (key, item) :: rest => (key, item.finish) :: finishEntries rest

/-- The finished values of a list of tables. -/
def finishTables : List (List (String × Item)) → List Value
  | [] => []
  | entries :: rest => .table (finishEntries entries) :: finishTables rest

end

/-- The table on one line with the given pairs. -/
def inlineTable (pairs : List Pair) : Option Value :=
  (addPairs [] pairs).map fun entries => .table (finishEntries entries)

/-- The table of a document with pairs before its first header and then sections. -/
def assemble (pairs : List Pair) (sections : List Section) : Option (List (String × Value)) := do
  let root ← addPairs [] pairs
  let document ← sections.foldlM addSection root
  return finishEntries document

end RoutineTiming.Toml
