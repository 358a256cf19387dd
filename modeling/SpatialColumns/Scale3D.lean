import SpatialColumns.Column.DenseUnion
import SpatialColumns.Column.ScalarBuilder
import SpatialColumns.Vec3D
/-! # Scaling in space

A scaling has one factor per axis or one for all axes, and is stored as a
dense union with an arm for each. -/

namespace SpatialColumns

inductive Scale3D where
  /-- One factor per axis. -/
  | threeD (factors : Vec3D)
  /-- One factor for all axes. -/
  | uniform (factor : Binary32)
  deriving DecidableEq, BEq, Repr

namespace Scale3D

instance : Coe Vec3D Scale3D := ⟨threeD⟩

instance : Coe Binary32 Scale3D := ⟨uniform⟩

def typeName : String := "rerun.datatypes.Scale3D"

def armFields : List Field :=
  [.required "ThreeD" Vec3D.datatype, .required "Uniform" (.scalar .float32)]

def datatype : DataType := DenseUnion.datatype armFields

/-- The type id of the arm of one factor per axis. -/
def threeDTypeId : Int8 := 1

/-- The type id of the arm of one factor for all axes. -/
def uniformTypeId : Int8 := 2

structure Builder where
  entries : UnionEntries
  threeD : Vec3D.codec.Builder
  uniform : ScalarBuilder .float32

namespace Builder

/-- The arms start without room of their own, since each value goes to one of them. -/
def withCapacity (capacity : Nat) : Builder :=
  ⟨.withCapacity capacity, Vec3D.codec.withCapacity 0, {}⟩

def length (b : Builder) : Nat := b.entries.length

/-- The length of the arm that a value goes to. -/
def armLength (b : Builder) : Option Scale3D → Nat
  | none => b.entries.nullMarkers
  | some (.threeD _) => Vec3D.codec.length b.threeD
  | some (.uniform _) => b.uniform.length

/-- Takes a value, unless its entry could not point past its arm. The entry
comes before the value. -/
def append (b : Builder) (value : Option Scale3D) : Except Error Unit × Builder :=
  match DenseUnion.refusal (b.armLength value) with
  | some e => (.error (.column "append" e), b)
  | none =>
    let ⟨entries, threeD, uniform⟩ := b
    match value with
    | none => (.ok (), ⟨entries.recordNull, threeD, uniform⟩)
    | some (.threeD v) =>
      let entries := entries.record threeDTypeId (Vec3D.codec.length threeD)
      let (result, threeD) := Vec3D.codec.append threeD (some v)
      (result, ⟨entries, threeD, uniform⟩)
    | some (.uniform s) =>
      (.ok (), ⟨entries.record uniformTypeId uniform.length, threeD, uniform.push (some s)⟩)

def finish (b : Builder) : Except ColumnError Column × Builder :=
  let ⟨entries, threeD, uniform⟩ := b
  match Vec3D.codec.finish threeD with
  | (.error e, threeD) => (.error e, ⟨entries, threeD, uniform⟩)
  | (.ok threeDColumn, threeD) =>
    let (uniformColumn, uniform) := uniform.finish
    let (result, entries) :=
      entries.finish (DenseUnion.arms armFields) [threeDColumn, uniformColumn]
    (result, ⟨entries, threeD, uniform⟩)

end Builder

/-- The value of a slot of a decoded arm. -/
def resolve (threeD : Array (Option Vec3D)) (uniform : Array (Option Binary32))
    (typeId : Int8) (slot : Nat) : Option (Except DecodeError Scale3D) :=
  if typeId = threeDTypeId then
    some ((Column.armValue threeD slot typeName).map .threeD)
  else if typeId = uniformTypeId then
    some ((Column.armValue uniform slot typeName).map .uniform)
  else none

def decode (c : Column) : Except DecodeError (List (Option Scale3D)) := do
  c.expect datatype
  match c with
  | .union arms mode typeIds offsets children =>
    let threeD ← DecodeError.within (typeName ++ "#ThreeD")
      (Vec3D.codec.decode (← Column.armChild typeName threeDTypeId arms children))
    let uniform ← (← Column.armChild typeName uniformTypeId arms children).scalarSlots .float32
    Column.unionValues typeName (Column.unionEntries mode typeIds offsets)
      (resolve threeD.toArray (uniform.map Slot.get?).toArray)
  | _ => .error (.datatypeMismatch datatype c.datatype)

/-- Two arms decode entry by entry once there are vectors in the one and slots in the other. -/
theorem decode_arms (typeIds : List Int8) (offsets : List Int32)
    (nulls vectors factors : Column) :
    decode (.union (DenseUnion.arms armFields) .dense typeIds offsets [nulls, vectors, factors]) =
      (DecodeError.within (typeName ++ "#ThreeD") (Vec3D.codec.decode vectors)).bind fun values =>
        (factors.scalarSlots .float32).bind fun slots =>
          Column.unionValues typeName (Column.unionEntries .dense typeIds offsets)
            (resolve values.toArray (slots.map Slot.get?).toArray) := by
  have hexpect : (Column.union (DenseUnion.arms armFields) .dense typeIds offsets
      [nulls, vectors, factors]).expect datatype = .ok () := Column.expect_eq_ok_iff.mpr rfl
  have hthreeD : Column.armChild typeName threeDTypeId (DenseUnion.arms armFields)
      [nulls, vectors, factors] = .ok vectors := rfl
  have huniform : Column.armChild typeName uniformTypeId (DenseUnion.arms armFields)
      [nulls, vectors, factors] = .ok factors := rfl
  unfold decode
  rw [hexpect]
  simp only [hthreeD, huniform, bind, Except.bind]

/-- Scalings decode entry by entry once the factors per axis do. -/
theorem decode_union (typeIds : List Int8) (offsets : List Int32) (nulls vectors : Column)
    (slots : List (Slot Scalar.float32.Value)) :
    decode (.union (DenseUnion.arms armFields) .dense typeIds offsets
        [nulls, vectors, .scalar .float32 slots]) =
      (DecodeError.within (typeName ++ "#ThreeD") (Vec3D.codec.decode vectors)).bind fun values =>
        Column.unionValues typeName (Column.unionEntries .dense typeIds offsets)
          (resolve values.toArray (slots.map Slot.get?).toArray) := by
  rw [decode_arms, Column.scalarSlots_scalar]
  rfl

def codec : Codec Scale3D where
  Builder := Builder
  name := typeName
  datatype := datatype
  builderSize := 368
  elementSize := 16
  withCapacity := Builder.withCapacity
  length := Builder.length
  append := Builder.append
  finish := Builder.finish
  decode := decode

end Scale3D

end SpatialColumns
