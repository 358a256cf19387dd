import SpatialColumns.BatchBuilder
import SpatialColumns.Column.Restore
import SpatialColumns.Registry
/-! # Record batches

A record batch puts columns of one length side by side, each under a field of
its own name. It is made of component batches. Every batch is checked before
it is encoded, and the columns are checked against the schema at the end. -/

namespace SpatialColumns

/-- A batch of instances of one component. -/
structure ComponentBatch where
  name : String
  datatype : DataType
  instances : Nat
  /-- The column of the instances. -/
  column : Except Error Column

namespace ComponentBatch

variable {α : Type}

def ofList (c : Codec α) (values : List α) : ComponentBatch :=
  ⟨c.name, c.datatype, values.length, c.encode values⟩

/-- A batch of one instance. -/
def single (c : Codec α) (value : α) : ComponentBatch := ofList c [value]

end ComponentBatch

structure RecordBatch where
  schema : Schema
  columns : List Column
  rows : Nat

namespace RecordBatch

/-- The first column that has nulls although its field is required. -/
def nullDefect? (schema : Schema) (columns : List Column) : Option ColumnError :=
  (schema.zip columns).findSome? fun (field, column) =>
    if !field.nullable && column.nullCount ≠ 0 then some (.nullsInColumn field.name) else none

/-- The first column that is not of its field's datatype. -/
def typeDefect? (schema : Schema) (columns : List Column) : Option ColumnError :=
  (schema.zip columns).zipIdx.findSome? fun ((field, column), index) =>
    if column.datatype ≠ field.type then
      some (.columnType index field.type column.datatype)
    else none

/-- A record batch with an explicit number of rows, which it keeps even when it
has no columns. -/
def assemble (schema : Schema) (columns : List Column) (rows : Nat) :
    Except ColumnError RecordBatch :=
  match nullDefect? schema columns with
  | some e => .error e
  | none =>
    if columns.any fun column => column.length ≠ rows then .error .rowCount
    else match typeDefect? schema columns with
      | some e => .error e
      | none => .ok ⟨schema, columns, rows⟩

/-- The record batch with all columns restored, which are then checked against
the schema. -/
def restored (batch : RecordBatch) : Except ColumnError RecordBatch := do
  assemble batch.schema (← batch.columns.mapM Column.restored) batch.rows

/-- Fields and columns of component batches with the given number of
instances, whose names are new. -/
def collect (rows : Nat) : (seen : List String) → List ComponentBatch →
    Except Error (List (Field × Column))
  | _, [] => .ok []
  | seen, batch :: batches =>
    if batch.name ∈ seen then .error (.invalidInput (.duplicateComponent batch.name))
    else if batch.instances ≠ rows then
      .error (.invalidInput (.instanceCount batch.name batch.instances rows))
    else do
      let column ← Error.within batch.name batch.column
      let rest ← collect rows (batch.name :: seen) batches
      return (.required batch.name batch.datatype, column) :: rest

/-- The record batch of component batches, with as many rows as the first one
has instances. -/
def ofBatches (batches : List ComponentBatch) : Except Error RecordBatch := do
  let rows := (batches.head?.map (·.instances)).getD 0
  let parts ← collect rows [] batches
  match assemble (parts.map (·.1)) (parts.map (·.2)) rows with
  | .ok batch => return batch
  | .error e => .error (.column "to_record_batch" e)

/-- The first column under a name. -/
def column? (batch : RecordBatch) (name : String) : Option Column :=
  ((batch.schema.zip batch.columns).find? fun entry => entry.1.name = name).map (·.2)

/-- The instances of a component. -/
def component {α : Type} (batch : RecordBatch) (c : Codec α) : Except Error (List α) :=
  match batch.column? c.name with
  | none => .error (.unknownComponent c.name)
  | some column =>
    match c.decodeAll column with
    | .ok values => .ok values
    | .error e => .error (.decoding e)

end RecordBatch

end SpatialColumns
