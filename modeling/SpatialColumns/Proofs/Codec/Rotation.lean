import SpatialColumns.Proofs.Codec.Vector
import SpatialColumns.Proofs.Column.DenseUnion
import SpatialColumns.Proofs.Column.Struct
import SpatialColumns.Rotation3D

/-!
# Rotations, written and read

The children of a column of rotations about an axis keep a slot for every row,
so the axis is null exactly where the rotation is, and the angle nowhere. The
arms of a column of rotations keep a slot for every value that went to them.
-/

namespace SpatialColumns

open DenseUnion (maxOffset Countable countable_map nullMarkersTypeId offsetsOf slotsOf
  slotsOf_concat length_slotsOf length_slotsOf_le length_slotsOf_le_length)

namespace RotationAxisAngle

/-- The angle of a row, which is there also where the rotation is not. -/
def angleOf (value : Option RotationAxisAngle) : Scalar.float32.Value :=
  (value.map (·.angle.radians)).getD .zero

/-- The axis of every row. -/
def axes (values : List (Option RotationAxisAngle)) : List (Option Vec3D) :=
  values.map (Option.map (·.axis))

/-- The builder that has taken a list of rotations. -/
def holding (values : List (Option RotationAxisAngle)) : Builder :=
  ⟨Vec3D.holding (axes values), .holding (some ∘ angleOf) values, .holding values⟩

/-- The columns of the axes and of the angles. -/
def children (values : List (Option RotationAxisAngle)) : List Column :=
  [Vec3D.column (axes values), .scalar .float32 (values.map fun value => .value (angleOf value))]

/-- The column of a list of rotations. -/
def column (values : List (Option RotationAxisAngle)) : Column :=
  .struct fields values.length (Column.validityOf values) (children values)

@[simp] theorem length_axes (values : List (Option RotationAxisAngle)) :
    (axes values).length = values.length :=
  List.length_map _

/-- The axis is null in the rows of the struct that are null, the angle in none. -/
theorem fits_children (values : List (Option RotationAxisAngle)) :
    List.Forall₂ (Column.Fits values.length (Column.validityOf values)) fields
      (children values) := by
  have haxis : (Vec3D.column (axes values)).occupied =
      (Column.validityOf values).map Presence.ofBits := by
    rw [Vec3D.column, FixedSizeListBuilder.occupied_column, axes, Column.validityOf_map,
      Column.validityOf_map]
  have hangle : (Column.scalar .float32 (values.map fun value => .value (angleOf value))).occupied =
      none := by
    rw [← Column.occupied_scalar_value (values.map angleOf), List.map_map]
    rfl
  refine .cons ⟨Vec3D.lawful.column_datatype _, ?_, .inr ?_⟩
    (.cons ⟨rfl, ?_, .inr ?_⟩ .nil)
  · rw [Vec3D.lawful.column_length, length_axes]
  · rw [haxis]
    exact Column.nullsMasked_map_ofBits _
  · exact List.length_map _
  · rw [hangle]
    exact Column.nullsMasked_none _

theorem append_holding (values : List (Option RotationAxisAngle))
    (value : Option RotationAxisAngle) :
    (holding values).append value = (.ok (), holding (values ++ [value])) := by
  have haxis : Vec3D.codec.append (Vec3D.holding (axes values)) (value.map (·.axis)) =
      (.ok (), Vec3D.holding (axes (values ++ [value]))) := by
    rw [Vec3D.total.append]
    simp [axes]
  have hangle : (ScalarBuilder.holding (some ∘ angleOf) values).push
      (some ((value.map (·.angle.radians)).getD .zero)) =
        .holding (some ∘ angleOf) (values ++ [value]) :=
    ScalarBuilder.push_holding (some ∘ angleOf) values value
  simp only [Builder.append, holding, haxis, hangle, ValidityBuilder.push_holding]

theorem finish_holding (values : List (Option RotationAxisAngle)) :
    (holding values).finish = (.ok (column values), holding []) := by
  have haxis := Vec3D.total.finish (axes values)
  have hbits := ValidityBuilder.finish_holding (β := RotationAxisAngle) values
  have hstruct : Column.struct? fields
      [Vec3D.column (axes values),
        .scalar .float32 (values.map fun value => .value (angleOf value))]
      (Column.validityOf values) = .ok (column values) :=
    Column.struct?_of_fits (fun _ => Column.length_of_validityOf) (List.cons_ne_nil _ _)
      (fits_children values)
  simp only [Builder.finish, holding, haxis, hbits, ScalarBuilder.finish_holding,
    Function.comp_apply, Slot.ofOption, hstruct]
  rfl

theorem throughout_addressable_column_iff {values : List (Option RotationAxisAngle)} :
    (column values).Throughout Column.Addressable ↔
      (Vec3D.column (axes values)).Throughout Column.Addressable := by
  simp [column, children]

theorem decode_column (values : List (Option RotationAxisAngle))
    (haddressable : (column values).Throughout Column.Addressable) :
    decode (column values) = .ok values := by
  rw [column, children, decode_struct,
    Vec3D.total.decode (axes values) (throughout_addressable_column_iff.mp haddressable)]
  apply Column.readRows_validityOf
  intro row hrow
  cases hvalue : values[row] with
  | none => rfl
  | some value =>
      have haxisRow : Column.itemAt (axes values).toArray row = .ok (some value.axis) := by
        simp [axes, hrow, hvalue]
      have hangleRow : Column.itemAt (values.map fun value => Slot.value (angleOf value)).toArray
          row = .ok (.value value.angle.radians) := by
        simp [hrow, hvalue, angleOf]
      simp [decodeRow, haxisRow, hangleRow, bind, Except.bind, pure, Except.pure]

theorem total : codec.Total holding column where
  withCapacity _ := rfl
  length values := ValidityBuilder.length_holding values
  append := append_holding
  finish := finish_holding
  column_length _ := rfl
  column_datatype _ := rfl
  decode := decode_column
  addressable values hlength :=
    throughout_addressable_column_iff.mpr (Vec3D.total.addressable _ (by rwa [length_axes]))
  addressable_of_ok values others hlength hdecode := by
    change decode (column values) = .ok others at hdecode
    rw [column, children, decode_struct, Column.bind_eq_ok_iff] at hdecode
    obtain ⟨found, haxes, -⟩ := hdecode
    exact throughout_addressable_column_iff.mpr (Vec3D.total.addressable_of_ok _ found
      (by rwa [length_axes]) (DecodeError.within_eq_ok_iff.mp haxes))

theorem lawful : codec.Lawful holding column := total.lawful

/-- A column of rotations has nothing beyond its rows. -/
theorem fitted?_column {values : List (Option RotationAxisAngle)}
    (hlength : values.length ≤ maxOffset) :
    (column values).fitted? = some (column values) := by
  have haxis : (Vec3D.column (axes values)).cut? none = some (Vec3D.column (axes values)) :=
    Column.fitted?_vectors (by decide) (by simpa [axes] using hlength)
  rw [Column.fitted?, column, Column.cut?]
  simp [children, Column.cutAll?, haxis]

end RotationAxisAngle

namespace Rotation3D

/-- The type id of the arm that a value goes to. -/
def typeIdOf : Option Rotation3D → Int8
  | none => nullMarkersTypeId
  | some (.quaternion _) => quaternionTypeId
  | some (.axisAngle _) => axisAngleTypeId

def quaternion? : Option Rotation3D → Option Quaternion
  | some (.quaternion q) => some q
  | _ => none

def axisAngle? : Option Rotation3D → Option RotationAxisAngle
  | some (.axisAngle r) => some r
  | _ => none

/-- The builder that has taken a list of rotations. -/
def holding (values : List (Option Rotation3D)) : Builder :=
  ⟨.holding (values.map typeIdOf), Quaternion.holding (slotsOf quaternion? values),
    RotationAxisAngle.holding (slotsOf axisAngle? values)⟩

/-- The columns of the null markers and of the two arms. -/
def children (values : List (Option Rotation3D)) : List Column :=
  [.null ((values.map typeIdOf).count nullMarkersTypeId),
    Quaternion.column (slotsOf quaternion? values),
    RotationAxisAngle.column (slotsOf axisAngle? values)]

/-- The column of a list of rotations. -/
def column (values : List (Option Rotation3D)) : Column :=
  .union (DenseUnion.arms armFields) .dense (values.map typeIdOf)
    (offsetsOf (values.map typeIdOf)) (children values)

theorem quaternionTypeId_ne : quaternionTypeId ≠ nullMarkersTypeId := by decide

theorem axisAngleTypeId_ne : axisAngleTypeId ≠ nullMarkersTypeId := by decide

theorem typeIdOf_eq_quaternion (value : Option Rotation3D) :
    typeIdOf value = quaternionTypeId ↔ (quaternion? value).isSome = true := by
  rcases value with _ | _ | _ <;> simp [typeIdOf, quaternion?] <;> decide

theorem typeIdOf_eq_axisAngle (value : Option Rotation3D) :
    typeIdOf value = axisAngleTypeId ↔ (axisAngle? value).isSome = true := by
  rcases value with _ | _ | _ <;> simp [typeIdOf, axisAngle?] <;> decide

theorem typeIdOf_mem_arms (value : Option Rotation3D) :
    typeIdOf value ∈ (DenseUnion.arms armFields).map (·.1) := by
  change typeIdOf value ∈ [nullMarkersTypeId, quaternionTypeId, axisAngleTypeId]
  rcases value with _ | _ | _ <;> simp [typeIdOf]

/-- A value goes to an arm with a slot for every earlier value of its kind. -/
theorem armLength_holding (values : List (Option Rotation3D)) (value : Option Rotation3D) :
    (holding values).armLength value = (values.map typeIdOf).count (typeIdOf value) := by
  rcases value with _ | _ | _
  · rfl
  · rw [Builder.armLength, holding, Quaternion.lawful.length,
      length_slotsOf typeIdOf_eq_quaternion, typeIdOf]
  · rw [Builder.armLength, holding, RotationAxisAngle.lawful.length,
      length_slotsOf typeIdOf_eq_axisAngle, typeIdOf]

/-- A value whose arm is full is refused. -/
theorem Builder.append_of_refusal {b : Builder} {value : Option Rotation3D} {e : ColumnError}
    (hfull : DenseUnion.refusal (b.armLength value) = some e) :
    b.append value = (.error (.column "append" e), b) := by
  unfold append
  rw [hfull]

/-- A value is taken as long as its arm has room for it. -/
theorem append_of_room {values : List (Option Rotation3D)} {value : Option Rotation3D}
    (hroom : DenseUnion.refusal ((holding values).armLength value) = none) :
    (holding values).append value = (.ok (), holding (values ++ [value])) := by
  unfold Builder.append
  rw [hroom]
  rcases value with _ | q | r
  · simp [holding, slotsOf_concat, quaternion?, axisAngle?, UnionEntries.recordNull_holding,
      typeIdOf]
  · have hentry := UnionEntries.record_holding (values.map typeIdOf) quaternionTypeId_ne
    have hslot := Quaternion.total.append (slotsOf quaternion? values) (some q)
    simp [holding, slotsOf_concat, quaternion?, axisAngle?, Quaternion.lawful.length,
      length_slotsOf typeIdOf_eq_quaternion, typeIdOf, hentry, hslot]
  · have hentry := UnionEntries.record_holding (values.map typeIdOf) axisAngleTypeId_ne
    have hslot := RotationAxisAngle.total.append (slotsOf axisAngle? values) (some r)
    simp [holding, slotsOf_concat, quaternion?, axisAngle?, RotationAxisAngle.lawful.length,
      length_slotsOf typeIdOf_eq_axisAngle, typeIdOf, hentry, hslot]

theorem append_holding (values : List (Option Rotation3D)) (value : Option Rotation3D)
    (hlength : values.length < maxOffset) :
    (holding values).append value = (.ok (), holding (values ++ [value])) := by
  apply append_of_room
  rw [armLength_holding]
  exact DenseUnion.refusal_count _ (countable_map (by omega))

/-- Every arm has the slots of its entries. -/
theorem holdsEntries_children {values : List (Option Rotation3D)}
    (hroom : Countable (values.map typeIdOf)) :
    List.Forall₂ (Column.HoldsEntries (values.map typeIdOf)) (DenseUnion.arms armFields)
      (children values) := by
  have hquaternions := length_slotsOf_le typeIdOf_eq_quaternion hroom
  have haxisAngles := length_slotsOf_le typeIdOf_eq_axisAngle hroom
  rw [armFields, DenseUnion.arms_pair]
  refine .cons (Column.holdsEntries_null hroom)
    (.cons ⟨⟨?_, ?_⟩, ?_⟩ (.cons ⟨⟨?_, ?_⟩, ?_⟩ .nil))
  · rw [Quaternion.lawful.column_length, length_slotsOf typeIdOf_eq_quaternion]
    rfl
  · rwa [Quaternion.lawful.column_length]
  · exact Column.fitted?_vectors (by decide) (by rwa [List.length_map])
  · rw [RotationAxisAngle.lawful.column_length, length_slotsOf typeIdOf_eq_axisAngle]
    rfl
  · rwa [RotationAxisAngle.lawful.column_length]
  · exact RotationAxisAngle.fitted?_column haxisAngles

/-- Finishing is nothing but making up the union. -/
theorem finish_eq (values : List (Option Rotation3D)) :
    (holding values).finish =
      (Column.union? (DenseUnion.arms armFields) .dense (values.map typeIdOf)
        (offsetsOf (values.map typeIdOf)) (children values), holding []) := by
  have hquaternions := Quaternion.total.finish (slotsOf quaternion? values)
  have haxisAngles := RotationAxisAngle.total.finish (slotsOf axisAngle? values)
  simp only [Builder.finish, holding, hquaternions, haxisAngles, UnionEntries.finish_holding,
    children]
  rfl

theorem union?_children {values : List (Option Rotation3D)}
    (hroom : Countable (values.map typeIdOf)) :
    Column.union? (DenseUnion.arms armFields) .dense (values.map typeIdOf)
      (offsetsOf (values.map typeIdOf)) (children values) = .ok (column values) :=
  Column.union?_of_holdsEntries (holdsEntries_children hroom)
    (List.forall_mem_map.mpr fun value _ => typeIdOf_mem_arms value)

theorem finish_holding (values : List (Option Rotation3D)) (hlength : values.length ≤ maxOffset) :
    (holding values).finish = (.ok (column values), holding []) := by
  rw [finish_eq, union?_children (countable_map hlength)]

theorem throughout_addressable_column_iff {values : List (Option Rotation3D)} :
    (column values).Throughout Column.Addressable ↔
      (Quaternion.column (slotsOf quaternion? values)).Throughout Column.Addressable ∧
        (RotationAxisAngle.column (slotsOf axisAngle? values)).Throughout Column.Addressable := by
  simp [column, children]

theorem decode_column {values : List (Option Rotation3D)}
    (hroom : Countable (values.map typeIdOf))
    (haddressable : (column values).Throughout Column.Addressable) :
    decode (column values) = .ok values := by
  obtain ⟨hquaternionsReach, haxisAnglesReach⟩ := throughout_addressable_column_iff.mp haddressable
  have hquaternions := Quaternion.total.decode (slotsOf quaternion? values) hquaternionsReach
  have haxisAngles := RotationAxisAngle.total.decode (slotsOf axisAngle? values) haxisAnglesReach
  rw [column, children, decode_union, hquaternions, DecodeError.within_ok, Except.bind,
    haxisAngles]
  refine (Column.unionValues_of_resolve (f := id) hroom rfl ?_ ?_).trans (by simp)
  · rintro (_ | _)
    · exact quaternionTypeId_ne
    · exact axisAngleTypeId_ne
  · intro entry hentry value hvalue
    cases value with
    | quaternion q =>
        have hslot := DenseUnion.armValue_slotsOf typeIdOf_eq_quaternion hentry
          (by rw [hvalue]; rfl) typeName
        rw [typeIdOf, resolve, if_pos rfl, hslot]
        rfl
    | axisAngle r =>
        have hslot := DenseUnion.armValue_slotsOf typeIdOf_eq_axisAngle hentry
          (by rw [hvalue]; rfl) typeName
        rw [typeIdOf, resolve, if_neg (by decide), if_pos rfl, hslot]
        rfl

theorem lawful : codec.Lawful holding column where
  withCapacity _ := rfl
  length values := by
    rw [← List.length_map typeIdOf]
    exact UnionEntries.length_holding _
  append := append_holding
  finish := finish_holding
  column_length _ := List.length_map _
  column_datatype _ := rfl
  decode _ hlength := decode_column (countable_map hlength)
  addressable values hlength := by
    have hquaternions := Nat.le_trans (length_slotsOf_le_length quaternion? values) hlength
    have hturns := Nat.le_trans (length_slotsOf_le_length axisAngle? values) hlength
    exact throughout_addressable_column_iff.mpr ⟨Quaternion.total.addressable _ hquaternions,
      RotationAxisAngle.total.addressable _ hturns⟩
  addressable_of_ok values others hlength hdecode := by
    have hquaternions := Nat.le_trans (length_slotsOf_le_length quaternion? values) hlength
    have hturns := Nat.le_trans (length_slotsOf_le_length axisAngle? values) hlength
    change decode (column values) = .ok others at hdecode
    rw [column, children, decode_union, Column.bind_eq_ok_iff] at hdecode
    obtain ⟨quaternions, hfirst, hrest⟩ := hdecode
    obtain ⟨turns, hsecond, -⟩ := Column.bind_eq_ok_iff.mp hrest
    refine throughout_addressable_column_iff.mpr ⟨?_, ?_⟩
    · exact Quaternion.total.addressable_of_ok _ quaternions hquaternions
        (DecodeError.within_eq_ok_iff.mp hfirst)
    · exact RotationAxisAngle.total.addressable_of_ok _ turns hturns
        (DecodeError.within_eq_ok_iff.mp hsecond)

end Rotation3D

end SpatialColumns
