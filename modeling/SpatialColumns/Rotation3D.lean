import SpatialColumns.Column.DenseUnion
import SpatialColumns.Quaternion
import SpatialColumns.RotationAxisAngle
/-! # Rotations in space

A rotation is a quaternion or a rotation about an axis, stored as a dense
union with an arm for each. -/

namespace SpatialColumns

inductive Rotation3D where
  | quaternion (q : Quaternion)
  | axisAngle (r : RotationAxisAngle)
  deriving DecidableEq, BEq, Repr

namespace Rotation3D

def identity : Rotation3D := .quaternion .identity

instance : Inhabited Rotation3D := ⟨identity⟩

instance : Coe Quaternion Rotation3D := ⟨quaternion⟩

instance : Coe RotationAxisAngle Rotation3D := ⟨axisAngle⟩

def typeName : String := "rerun.datatypes.Rotation3D"

def armFields : List Field :=
  [.required "Quaternion" Quaternion.datatype, .required "AxisAngle" RotationAxisAngle.datatype]

def datatype : DataType := DenseUnion.datatype armFields

/-- The type id of the arm of quaternions. -/
def quaternionTypeId : Int8 := 1

/-- The type id of the arm of rotations about an axis. -/
def axisAngleTypeId : Int8 := 2

structure Builder where
  entries : UnionEntries
  quaternions : Quaternion.codec.Builder
  axisAngles : RotationAxisAngle.codec.Builder

namespace Builder

/-- The arms start without room of their own, since each value goes to one of them. -/
def withCapacity (capacity : Nat) : Builder :=
  ⟨.withCapacity capacity, Quaternion.codec.withCapacity 0,
    RotationAxisAngle.codec.withCapacity 0⟩

def length (b : Builder) : Nat := b.entries.length

/-- The length of the arm that a value goes to. -/
def armLength (b : Builder) : Option Rotation3D → Nat
  | none => b.entries.nullMarkers
  | some (.quaternion _) => Quaternion.codec.length b.quaternions
  | some (.axisAngle _) => RotationAxisAngle.codec.length b.axisAngles

/-- Takes a value, unless its entry could not point past its arm. The entry
comes before the value. -/
def append (b : Builder) (value : Option Rotation3D) : Except Error Unit × Builder :=
  match DenseUnion.refusal (b.armLength value) with
  | some e => (.error (.column "append" e), b)
  | none =>
    let ⟨entries, quaternions, axisAngles⟩ := b
    match value with
    | none => (.ok (), ⟨entries.recordNull, quaternions, axisAngles⟩)
    | some (.quaternion q) =>
      let entries := entries.record quaternionTypeId (Quaternion.codec.length quaternions)
      let (result, quaternions) := Quaternion.codec.append quaternions (some q)
      (result, ⟨entries, quaternions, axisAngles⟩)
    | some (.axisAngle r) =>
      let entries := entries.record axisAngleTypeId (RotationAxisAngle.codec.length axisAngles)
      let (result, axisAngles) := RotationAxisAngle.codec.append axisAngles (some r)
      (result, ⟨entries, quaternions, axisAngles⟩)

def finish (b : Builder) : Except ColumnError Column × Builder :=
  let ⟨entries, quaternions, axisAngles⟩ := b
  match Quaternion.codec.finish quaternions with
  | (.error e, quaternions) => (.error e, ⟨entries, quaternions, axisAngles⟩)
  | (.ok quaternionColumn, quaternions) =>
    match RotationAxisAngle.codec.finish axisAngles with
    | (.error e, axisAngles) => (.error e, ⟨entries, quaternions, axisAngles⟩)
    | (.ok axisAngleColumn, axisAngles) =>
      let (result, entries) :=
        entries.finish (DenseUnion.arms armFields) [quaternionColumn, axisAngleColumn]
      (result, ⟨entries, quaternions, axisAngles⟩)

end Builder

/-- The value of a slot of a decoded arm. -/
def resolve (quaternions : Array (Option Quaternion))
    (axisAngles : Array (Option RotationAxisAngle)) (typeId : Int8) (slot : Nat) :
    Option (Except DecodeError Rotation3D) :=
  if typeId = quaternionTypeId then
    some ((Column.armValue quaternions slot typeName).map .quaternion)
  else if typeId = axisAngleTypeId then
    some ((Column.armValue axisAngles slot typeName).map .axisAngle)
  else none

def decode (c : Column) : Except DecodeError (List (Option Rotation3D)) := do
  c.expect datatype
  match c with
  | .union arms mode typeIds offsets children =>
    let quaternions ← DecodeError.within (typeName ++ "#Quaternion")
      (Quaternion.codec.decode (← Column.armChild typeName quaternionTypeId arms children))
    let axisAngles ← DecodeError.within (typeName ++ "#AxisAngle")
      (RotationAxisAngle.codec.decode (← Column.armChild typeName axisAngleTypeId arms children))
    Column.unionValues typeName (Column.unionEntries mode typeIds offsets)
      (resolve quaternions.toArray axisAngles.toArray)
  | _ => .error (.datatypeMismatch datatype c.datatype)

/-- Rotations decode entry by entry once both arms do. -/
theorem decode_union (typeIds : List Int8) (offsets : List Int32)
    (nulls quaternions axisAngles : Column) :
    decode (.union (DenseUnion.arms armFields) .dense typeIds offsets
        [nulls, quaternions, axisAngles]) =
      (DecodeError.within (typeName ++ "#Quaternion") (Quaternion.codec.decode quaternions)).bind
        fun values =>
          (DecodeError.within (typeName ++ "#AxisAngle")
            (RotationAxisAngle.codec.decode axisAngles)).bind fun others =>
              Column.unionValues typeName (Column.unionEntries .dense typeIds offsets)
                (resolve values.toArray others.toArray) := by
  have hexpect : (Column.union (DenseUnion.arms armFields) .dense typeIds offsets
      [nulls, quaternions, axisAngles]).expect datatype = .ok () :=
    Column.expect_eq_ok_iff.mpr rfl
  have hquaternion : Column.armChild typeName quaternionTypeId (DenseUnion.arms armFields)
      [nulls, quaternions, axisAngles] = .ok quaternions := rfl
  have haxisAngle : Column.armChild typeName axisAngleTypeId (DenseUnion.arms armFields)
      [nulls, quaternions, axisAngles] = .ok axisAngles := rfl
  unfold decode
  rw [hexpect]
  simp only [hquaternion, haxisAngle, bind, Except.bind]

def codec : Codec Rotation3D where
  Builder := Builder
  name := typeName
  datatype := datatype
  builderSize := 584
  elementSize := 20
  withCapacity := Builder.withCapacity
  length := Builder.length
  append := Builder.append
  finish := Builder.finish
  decode := decode

end Rotation3D

end SpatialColumns
