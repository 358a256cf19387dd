import SpatialColumns.BatchBuilder
import SpatialColumns.Codec.Vector
/-! # Identifiers

An identifier is sixteen bytes, and at the same time the number below
`2 ^ 128` whose big-endian digits in base 256 they are. It is stored as a list
of its bytes. -/

namespace SpatialColumns

structure Uuid where
  bytes : Vector UInt8 16
  deriving DecidableEq, Repr

namespace Uuid

/-- The identifier with all bits off. -/
def nil : Uuid := ⟨Vector.replicate 16 0⟩

instance : Inhabited Uuid := ⟨nil⟩

/-- The identifier of a number modulo `2 ^ 128`. -/
def ofNat (n : Nat) : Uuid :=
  ⟨Vector.ofFn fun (i : Fin 16) => UInt8.ofNat (n >>> (8 * (15 - i.val)))⟩

def toNat (u : Uuid) : Nat :=
  u.bytes.toList.foldl (fun acc byte => acc * 256 + byte.toNat) 0

/-- Identifiers are ordered by their first different byte. -/
def order (u v : Uuid) : Ordering := compare u.bytes.toList v.bytes.toList

def typeName : String := "rerun.datatypes.Uuid"

def datatype : DataType := .listOf .uint8 16

def codec : Codec Uuid := .vector typeName .uint8 16 192 16 bytes mk

end Uuid

end SpatialColumns
