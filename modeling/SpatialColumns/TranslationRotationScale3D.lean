import SpatialColumns.Rotation3D
import SpatialColumns.Scale3D
/-! # Affine transforms

A transform is a scaling, then a rotation, then a translation, each of which
may be absent. It is stored as a struct of those three and of the direction.
Every child column has one slot per row: an absent part and every part of an
absent transform are written as absent. -/

namespace SpatialColumns

structure TranslationRotationScale3D where
  translation : Option Vec3D
  rotation : Option Rotation3D
  scale : Option Scale3D
  /-- Whether the transform leads from the parent space to its own, instead of
  from its own space to the parent. -/
  fromParent : Bool := false
  deriving DecidableEq, BEq, Repr

namespace TranslationRotationScale3D

/-! ## Making transforms -/

/-- No translation, rotation or scaling. -/
def identity : TranslationRotationScale3D := ⟨none, none, none, false⟩

instance : Inhabited TranslationRotationScale3D := ⟨identity⟩

def ofTranslation (t : Vec3D) : TranslationRotationScale3D :=
  { identity with translation := some t }

def ofRotation (r : Rotation3D) : TranslationRotationScale3D :=
  { identity with rotation := some r }

def ofScale (s : Scale3D) : TranslationRotationScale3D :=
  { identity with scale := some s }

/-- A rigid transform. -/
def ofTranslationRotation (t : Vec3D) (r : Rotation3D) : TranslationRotationScale3D :=
  { ofTranslation t with rotation := some r }

def ofTranslationScale (t : Vec3D) (s : Scale3D) : TranslationRotationScale3D :=
  { ofTranslation t with scale := some s }

def ofRotationScale (r : Rotation3D) (s : Scale3D) : TranslationRotationScale3D :=
  { ofRotation r with scale := some s }

def ofTranslationRotationScale (t : Vec3D) (r : Rotation3D) (s : Scale3D) :
    TranslationRotationScale3D :=
  { ofTranslationRotation t r with scale := some s }

def withFromParent (x : TranslationRotationScale3D) (fromParent : Bool) :
    TranslationRotationScale3D :=
  { x with fromParent := fromParent }

/-! ## Columns -/

def typeName : String := "rerun.datatypes.TranslationRotationScale3D"

def fields : List Field :=
  [.optional "translation" Vec3D.datatype, .optional "rotation" Rotation3D.datatype,
    .optional "scale" Scale3D.datatype, .required "from_parent" (.scalar .bool)]

def datatype : DataType := .struct fields

structure Builder where
  translation : Vec3D.codec.Builder
  rotation : Rotation3D.codec.Builder
  scale : Scale3D.codec.Builder
  fromParent : ScalarBuilder .bool
  validity : ValidityBuilder

namespace Builder

def withCapacity (capacity : Nat) : Builder :=
  ⟨Vec3D.codec.withCapacity capacity, Rotation3D.codec.withCapacity capacity,
    Scale3D.codec.withCapacity capacity, .withCapacity capacity, .withCapacity capacity⟩

def length (b : Builder) : Nat := b.validity.length

/-- Takes a value part by part. The parts after one that is refused are left alone. -/
def append (b : Builder) (value : Option TranslationRotationScale3D) :
    Except Error Unit × Builder :=
  let ⟨translation, rotation, scale, fromParent, validity⟩ := b
  match Vec3D.codec.append translation (value.bind (·.translation)) with
  | (.error e, translation) => (.error e, ⟨translation, rotation, scale, fromParent, validity⟩)
  | (.ok (), translation) =>
    match Rotation3D.codec.append rotation (value.bind (·.rotation)) with
    | (.error e, rotation) => (.error e, ⟨translation, rotation, scale, fromParent, validity⟩)
    | (.ok (), rotation) =>
      match Scale3D.codec.append scale (value.bind (·.scale)) with
      | (.error e, scale) => (.error e, ⟨translation, rotation, scale, fromParent, validity⟩)
      | (.ok (), scale) =>
        (.ok (), ⟨translation, rotation, scale,
          fromParent.push (some (value.any (·.fromParent))), validity.push value.isSome⟩)

def finish (b : Builder) : Except ColumnError Column × Builder :=
  let ⟨translation, rotation, scale, fromParent, validity⟩ := b
  match Vec3D.codec.finish translation with
  | (.error e, translation) => (.error e, ⟨translation, rotation, scale, fromParent, validity⟩)
  | (.ok translationColumn, translation) =>
    match Rotation3D.codec.finish rotation with
    | (.error e, rotation) => (.error e, ⟨translation, rotation, scale, fromParent, validity⟩)
    | (.ok rotationColumn, rotation) =>
      match Scale3D.codec.finish scale with
      | (.error e, scale) => (.error e, ⟨translation, rotation, scale, fromParent, validity⟩)
      | (.ok scaleColumn, scale) =>
        let (fromParentColumn, fromParent) := fromParent.finish
        let (bits, validity) := validity.finish
        let children := [translationColumn, rotationColumn, scaleColumn, fromParentColumn]
        (Column.struct? fields children bits,
          ⟨translation, rotation, scale, fromParent, validity⟩)

end Builder

/-- The value of a row. -/
def decodeRow (translations : Array (Option Vec3D)) (rotations : Array (Option Rotation3D))
    (scales : Array (Option Scale3D)) (fromParents : Array (Slot Scalar.bool.Value))
    (present : Bool) (row : Nat) : Except DecodeError (Option TranslationRotationScale3D) :=
  if present then do
    return some ⟨← Column.itemAt translations row, ← Column.itemAt rotations row,
      ← Column.itemAt scales row, (← Column.itemAt fromParents row).raw⟩
  else .ok none

def decode (c : Column) : Except DecodeError (List (Option TranslationRotationScale3D)) := do
  c.expect datatype
  match c with
  | .struct fields length validity children =>
    let translations ← DecodeError.within (typeName ++ "#translation")
      (Vec3D.codec.decode (← Column.structField typeName "translation" fields children))
    let rotations ← DecodeError.within (typeName ++ "#rotation")
      (Rotation3D.codec.decode (← Column.structField typeName "rotation" fields children))
    let scales ← DecodeError.within (typeName ++ "#scale")
      (Scale3D.codec.decode (← Column.structField typeName "scale" fields children))
    let fromParents ←
      (← Column.structField typeName "from_parent" fields children).scalarSlots .bool
    Column.readRows length validity
      (decodeRow translations.toArray rotations.toArray scales.toArray fromParents.toArray)
  | _ => .error (.datatypeMismatch datatype c.datatype)

/-- Four children decode row by row once there are parts in three and slots in the last. -/
theorem decode_children (length : Nat) (validity : Option (List Bool))
    (translations rotations scales directions : Column) :
    decode (.struct fields length validity [translations, rotations, scales, directions]) =
      (DecodeError.within (typeName ++ "#translation") (Vec3D.codec.decode translations)).bind
        fun translationValues =>
          (DecodeError.within (typeName ++ "#rotation") (Rotation3D.codec.decode rotations)).bind
            fun rotationValues =>
              (DecodeError.within (typeName ++ "#scale") (Scale3D.codec.decode scales)).bind
                fun scaleValues => (directions.scalarSlots .bool).bind fun slots =>
                  Column.readRows length validity (decodeRow translationValues.toArray
                    rotationValues.toArray scaleValues.toArray slots.toArray) := by
  let children := [translations, rotations, scales, directions]
  have hexpect : (Column.struct fields length validity children).expect datatype = .ok () :=
    Column.expect_eq_ok_iff.mpr rfl
  have htranslation : Column.structField typeName "translation" fields children =
      .ok translations := rfl
  have hrotation : Column.structField typeName "rotation" fields children = .ok rotations := rfl
  have hscale : Column.structField typeName "scale" fields children = .ok scales := rfl
  have hdirection : Column.structField typeName "from_parent" fields children =
      .ok directions := rfl
  unfold decode
  rw [hexpect]
  simp only [children, htranslation, hrotation, hscale, hdirection, bind, Except.bind]

/-- Transforms decode row by row once their parts do. -/
theorem decode_struct (length : Nat) (validity : Option (List Bool))
    (translations rotations scales : Column) (slots : List (Slot Scalar.bool.Value)) :
    decode (.struct fields length validity [translations, rotations, scales, .scalar .bool slots]) =
      (DecodeError.within (typeName ++ "#translation") (Vec3D.codec.decode translations)).bind
        fun translationValues =>
          (DecodeError.within (typeName ++ "#rotation") (Rotation3D.codec.decode rotations)).bind
            fun rotationValues =>
              (DecodeError.within (typeName ++ "#scale") (Scale3D.codec.decode scales)).bind
                fun scaleValues => Column.readRows length validity
                  (decodeRow translationValues.toArray rotationValues.toArray scaleValues.toArray
                    slots.toArray) := by
  simp only [decode_children, Column.scalarSlots_scalar]
  rfl

def codec : Codec TranslationRotationScale3D where
  Builder := Builder
  name := typeName
  datatype := datatype
  builderSize := 1264
  elementSize := 56
  withCapacity := Builder.withCapacity
  length := Builder.length
  append := Builder.append
  finish := Builder.finish
  decode := decode

end TranslationRotationScale3D

end SpatialColumns
