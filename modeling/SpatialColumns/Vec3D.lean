import SpatialColumns.BatchBuilder
import SpatialColumns.Codec.Vector
/-! # Vectors in space

A vector is stored as a list of three floats. -/

namespace SpatialColumns

structure Vec3D where
  x : Binary32
  y : Binary32
  z : Binary32
  deriving DecidableEq, BEq, Inhabited, Repr

namespace Vec3D

def zero : Vec3D := ⟨.zero, .zero, .zero⟩

def one : Vec3D := ⟨.one, .one, .one⟩

def toVector (v : Vec3D) : Vector Binary32 3 := #v[v.x, v.y, v.z]

def ofVector (v : Vector Binary32 3) : Vec3D := ⟨v[0], v[1], v[2]⟩

@[simp] theorem ofVector_toVector (v : Vec3D) : ofVector v.toVector = v := rfl

@[simp] theorem toVector_ofVector (v : Vector Binary32 3) : (ofVector v).toVector = v := by
  ext i hi
  match i, hi with
  | 0, _ => rfl
  | 1, _ => rfl
  | 2, _ => rfl

def typeName : String := "rerun.datatypes.Vec3D"

def datatype : DataType := .listOf .float32 3

def codec : Codec Vec3D := .vector typeName .float32 3 192 12 toVector ofVector

end Vec3D

end SpatialColumns
