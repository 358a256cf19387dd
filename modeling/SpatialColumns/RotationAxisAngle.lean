import SpatialColumns.Angle
import SpatialColumns.Column.Assembly
import SpatialColumns.Column.ScalarBuilder
import SpatialColumns.Vec3D
/-! # Rotations about an axis

A rotation by an angle about an axis is stored as a struct of an axis and an
angle. An absent rotation has an absent axis and the angle zero. -/

namespace SpatialColumns

structure RotationAxisAngle where
  /-- The axis, of any length. -/
  axis : Vec3D
  angle : Angle
  deriving DecidableEq, BEq, Inhabited, Repr

namespace RotationAxisAngle

def typeName : String := "rerun.datatypes.RotationAxisAngle"

def fields : List Field :=
  [.required "axis" Vec3D.datatype, .required "angle" (.scalar .float32)]

def datatype : DataType := .struct fields

structure Builder where
  axis : Vec3D.codec.Builder
  angle : ScalarBuilder .float32
  validity : ValidityBuilder

namespace Builder

def withCapacity (capacity : Nat) : Builder :=
  ⟨Vec3D.codec.withCapacity capacity, .withCapacity capacity, .withCapacity capacity⟩

def length (b : Builder) : Nat := b.validity.length

def append (b : Builder) (value : Option RotationAxisAngle) : Except Error Unit × Builder :=
  let ⟨axis, angle, validity⟩ := b
  match Vec3D.codec.append axis (value.map (·.axis)) with
  | (.error e, axis) => (.error e, ⟨axis, angle, validity⟩)
  | (.ok (), axis) =>
    (.ok (), ⟨axis, angle.push (some ((value.map (·.angle.radians)).getD .zero)),
      validity.push value.isSome⟩)

def finish (b : Builder) : Except ColumnError Column × Builder :=
  let ⟨axis, angle, validity⟩ := b
  match Vec3D.codec.finish axis with
  | (.error e, axis) => (.error e, ⟨axis, angle, validity⟩)
  | (.ok axisColumn, axis) =>
    let (angleColumn, angle) := angle.finish
    let (bits, validity) := validity.finish
    (Column.struct? fields [axisColumn, angleColumn] bits, ⟨axis, angle, validity⟩)

end Builder

/-- The value of a row. A row that is present needs an axis, which is looked at
before the angle. -/
def decodeRow (axes : Array (Option Vec3D)) (angles : Array (Slot Scalar.float32.Value))
    (present : Bool) (row : Nat) : Except DecodeError (Option RotationAxisAngle) :=
  if present then do
    match ← Column.itemAt axes row with
    | some axis => return some ⟨axis, ⟨(← Column.itemAt angles row).raw⟩⟩
    | none => .error (.missingData Vec3D.typeName row)
  else .ok none

def decode (c : Column) : Except DecodeError (List (Option RotationAxisAngle)) := do
  c.expect datatype
  match c with
  | .struct fields length validity children =>
    let axes ← DecodeError.within (typeName ++ "#axis")
      (Vec3D.codec.decode (← Column.structField typeName "axis" fields children))
    let angles ← (← Column.structField typeName "angle" fields children).scalarSlots .float32
    Column.readRows length validity (decodeRow axes.toArray angles.toArray)
  | _ => .error (.datatypeMismatch datatype c.datatype)

/-- Two children decode row by row once there are axes in the one and slots in the other. -/
theorem decode_children (length : Nat) (validity : Option (List Bool)) (axes angles : Column) :
    decode (.struct fields length validity [axes, angles]) =
      (DecodeError.within (typeName ++ "#axis") (Vec3D.codec.decode axes)).bind fun values =>
        (angles.scalarSlots .float32).bind fun slots =>
          Column.readRows length validity (decodeRow values.toArray slots.toArray) := by
  have hexpect : (Column.struct fields length validity [axes, angles]).expect datatype = .ok () :=
    Column.expect_eq_ok_iff.mpr rfl
  have haxis : Column.structField typeName "axis" fields [axes, angles] = .ok axes := rfl
  have hangle : Column.structField typeName "angle" fields [axes, angles] = .ok angles := rfl
  unfold decode
  rw [hexpect]
  simp only [haxis, hangle, bind, Except.bind]

/-- Axes and angles decode row by row once the axes do. -/
theorem decode_struct (length : Nat) (validity : Option (List Bool)) (axes : Column)
    (slots : List (Slot Scalar.float32.Value)) :
    decode (.struct fields length validity [axes, .scalar .float32 slots]) =
      (DecodeError.within (typeName ++ "#axis") (Vec3D.codec.decode axes)).bind fun values =>
        Column.readRows length validity (decodeRow values.toArray slots.toArray) := by
  rw [decode_children, Column.scalarSlots_scalar]
  rfl

def codec : Codec RotationAxisAngle where
  Builder := Builder
  name := typeName
  datatype := datatype
  builderSize := 336
  elementSize := 16
  withCapacity := Builder.withCapacity
  length := Builder.length
  append := Builder.append
  finish := Builder.finish
  decode := decode

end RotationAxisAngle

end SpatialColumns
