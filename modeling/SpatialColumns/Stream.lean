import SpatialColumns.RecordBatch
import SpatialColumns.Stream.Header
import SpatialColumns.Stream.Packing
/-! # Streams of record batches

A stream describes itself: after a header that names the format it holds record
batches, each with its schema, so a reader needs to know no component. A stream
may come from anywhere, so a reader restores every batch from what is stored of it. -/

namespace SpatialColumns.Stream

instance : Packing RecordBatch where
  pack batch := pack (batch.schema, batch.columns, batch.rows)
  unpack t :=
    (unpack t : Option (List Field × List Column × Nat)).map fun (schema, columns, rows) =>
      ⟨schema, columns, rows⟩
  unpack_pack batch := by simp

/-- The header of every stream. -/
def signature : List UInt8 := [0x53, 0x43, 0x4f, 0x4c, 0xff, 0x01]

/-- The stream of record batches. -/
def write (batches : List RecordBatch) : List UInt8 :=
  writeHeader signature ++ writeTerms (batches.map pack)

/-- The rest of a stream after its header of the given length. -/
def body? (length : Nat) (bytes : List UInt8) : Option (List UInt8) :=
  if bytes.take length = signature then some (bytes.drop length) else none

/-- The record batches of a stream whose header has the given length. -/
def batches? (length : Nat) (bytes : List UInt8) : Option (List RecordBatch) := do
  (← readTerms (← body? length bytes)).mapM unpack

/-- Why bytes do not make up a stream, or the record batches if they do. A
negative length and parts that do not fit are told apart from all other faults. -/
def contents (bytes : List UInt8) : Except ColumnError (List RecordBatch) :=
  let refusal := .error (.reported .stream "not a stream of record batches")
  match takeHeaderLength? bytes with
  | none => refusal
  | some (length, rest) =>
    if length < 0 then .error (.negativeLength length)
    else match batches? length.toNatClampNeg rest with
      | some batches => batches.mapM RecordBatch.restored
      | none => refusal

/-- The record batches of a stream. -/
def read (bytes : List UInt8) : Except Error (List RecordBatch) :=
  (contents bytes).mapError (.column "from_ipc")

end SpatialColumns.Stream
