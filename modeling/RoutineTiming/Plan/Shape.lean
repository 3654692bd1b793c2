import RoutineTiming.OrderedMap
import RoutineTiming.Plan.Fault
import RoutineTiming.Toml.Value

/-!
# Values of a given shape

A place in a plan asks for a value of some shape: a text, a count, a list, a table with free keys,
or a record with known fields. A record is written as a table, or as an array of the values of its
fields in their order. Its entries are read in the order in which they are written, and missing
fields are noticed afterwards, in the order in which the record declares them.

## Main definitions

* `Shape` : the readers of values.
* `Shape.text`, `Shape.count`, `Shape.list`, `Shape.table` : the shapes of single places.
* `Record`, `Shape.record` : the fields of a record.
-/

namespace RoutineTiming

/-- A reader of values of a shape. -/
abbrev Shape (α : Type) := Toml.Value → Except ShapeFault α

namespace Shape

/-- The fault that a value is of another kind than expected. -/
def mismatch {α : Type} (v : Toml.Value) (expected : String) : Except ShapeFault α :=
  .error (.wrongKind v.description expected)

/-- A text. -/
def text : Shape String
  | .string s => .ok s
  | v => mismatch v "a string"

/-- The path of a file. -/
def path : Shape String
  | .string s => .ok s
  | v => mismatch v "path string"

/-- A whole number of 64 bits. -/
def count : Shape Nat
  | .integer n =>
    if 0 ≤ n ∧ n ≤ maxWord then .ok n.toNat
    else .error (.wrongValue (Toml.Value.integer n).description "u64")
  | v => mismatch v "u64"

/-- A list of values of one shape. -/
def list {α : Type} (element : Shape α) : Shape (List α)
  | .array elements => elements.mapM element
  | v => mismatch v "a sequence"

/-- The key under which a date or time is listed where a table is asked for. -/
def momentKey : String := "$__toml_private_datetime"

/-- The entries of a value that can be read as a table. -/
def entries? : Toml.Value → Option (List (String × Toml.Value))
  | .table entries => some entries
  | .moment text => some [(momentKey, .string text)]
  | _ => none

/-- A table with free keys and values of one shape. -/
def table {α : Type} (element : Shape α) : Shape (OrderedMap String α) := fun v =>
  match entries? v with
  | some entries => do
    let read ← entries.mapM fun (key, v) => do
      let a ← element v
      return (key, a)
    return .ofList read
  | none => mismatch v "a map"

end Shape

/-! ### Records -/

/-- A field of a record with a check of the values that it may have. -/
structure FieldCheck where
  name : String
  check : Toml.Value → Except ShapeFault Unit

/-- A field with values of a shape. -/
def FieldCheck.ofShape {α : Type} (name : String) (shape : Shape α) : FieldCheck :=
  ⟨name, fun v => (shape v).map fun _ => ()⟩

/-- The entries of a record, written as a table or as an array. -/
structure Record where
  name : String
  fields : List FieldCheck
  entries : List (String × Toml.Value)
  isArray : Bool

namespace Record

/-- The value of a field, if it is written. -/
def find? (record : Record) (field : String) : Option Toml.Value :=
  (record.entries.find? fun e => e.1 = field).map Prod.snd

/-- The fault that an array in place of the record ends before a field. -/
def tooShort {α : Type} (record : Record) (field : String) : Except ShapeFault α :=
  .error (.wrongLength ((record.fields.map FieldCheck.name).idxOf field)
    ("struct " ++ record.name ++ " with " ++ numeral record.fields.length ++ " elements"))

/-- The value of a field that must be written. -/
def required {α : Type} (record : Record) (field : String) (shape : Shape α) :
    Except ShapeFault α :=
  match record.find? field with
  | some v => shape v
  | none => if record.isArray then record.tooShort field else .error (.missingField field)

/-- The value of a field that may be left out of a table. -/
def optional {α : Type} (record : Record) (field : String) (shape : Shape α) :
    Except ShapeFault (Option α) :=
  match record.find? field with
  | some v => (shape v).map some
  | none => if record.isArray then record.tooShort field else .ok none

/-- The value of a field that has a default. -/
def withDefault {α : Type} (record : Record) (field : String) (default : α) (shape : Shape α) :
    Except ShapeFault α :=
  match record.find? field with
  | some v => shape v
  | none => .ok default

/-- Every entry is a field of the record and has a value that the field may have. -/
def check (record : Record) : Except ShapeFault Unit :=
  record.entries.forM fun (key, v) =>
    match record.fields.find? fun field => field.name = key with
    | some field => field.check v
    | none => .error (.unknownField key (record.fields.map FieldCheck.name))

end Record

/-- A record with the given fields. -/
def Shape.record {α : Type} (name : String) (fields : List FieldCheck)
    (build : Record → Except ShapeFault α) : Shape α := fun v =>
  let read (entries : List (String × Toml.Value)) (isArray : Bool) : Except ShapeFault α := do
    let record : Record := ⟨name, fields, entries, isArray⟩
    record.check
    build record
  match v with
  | .array elements => read ((fields.map FieldCheck.name).zip elements) true
  | v =>
    match entries? v with
    | some entries => read entries false
    | none => mismatch v ("struct " ++ name)

end RoutineTiming
