import SpatialColumns.BatchBuilder
import SpatialColumns.Codec.Vector
/-! # Quaternions

A quaternion is stored as a list of four floats, the scalar part last. -/

namespace SpatialColumns

structure Quaternion where
  x : Binary32
  y : Binary32
  z : Binary32
  w : Binary32
  deriving DecidableEq, BEq, Repr

namespace Quaternion

def identity : Quaternion := ⟨.zero, .zero, .zero, .one⟩

instance : Inhabited Quaternion := ⟨identity⟩

/-- The scalar part last. -/
def toVector (q : Quaternion) : Vector Binary32 4 := #v[q.x, q.y, q.z, q.w]

def ofVector (v : Vector Binary32 4) : Quaternion := ⟨v[0], v[1], v[2], v[3]⟩

/-- The scalar part first. -/
def ofScalarFirst (v : Vector Binary32 4) : Quaternion := ⟨v[1], v[2], v[3], v[0]⟩

@[simp] theorem ofVector_toVector (q : Quaternion) : ofVector q.toVector = q := rfl

@[simp] theorem toVector_ofVector (v : Vector Binary32 4) : (ofVector v).toVector = v := by
  ext i hi
  match i, hi with
  | 0, _ => rfl
  | 1, _ => rfl
  | 2, _ => rfl
  | 3, _ => rfl

def typeName : String := "rerun.datatypes.Quaternion"

def datatype : DataType := .listOf .float32 4

def codec : Codec Quaternion := .vector typeName .float32 4 192 16 toVector ofVector

end Quaternion

end SpatialColumns
