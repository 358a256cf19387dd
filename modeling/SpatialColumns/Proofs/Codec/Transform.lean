import SpatialColumns.Proofs.Codec.Rotation
import SpatialColumns.TranslationRotationScale3D

/-!
# Transforms, written and read

Every part of a transform has a child column with one slot per row. An absent
transform leaves all of its parts absent and the direction as it is by default,
so nothing but the validity bits tells it from a transform without parts.
-/

namespace SpatialColumns

open DenseUnion (maxOffset Countable countable_map nullMarkersTypeId offsetsOf slotsOf
  slotsOf_concat length_slotsOf length_slotsOf_le length_slotsOf_le_length)

namespace Scale3D

/-- The type id of the arm that a value goes to. -/
def typeIdOf : Option Scale3D → Int8
  | none => nullMarkersTypeId
  | some (.threeD _) => threeDTypeId
  | some (.uniform _) => uniformTypeId

def threeD? : Option Scale3D → Option Vec3D
  | some (.threeD factors) => some factors
  | _ => none

def uniform? : Option Scale3D → Option Scalar.float32.Value
  | some (.uniform factor) => some factor
  | _ => none

/-- The builder that has taken a list of scalings. -/
def holding (values : List (Option Scale3D)) : Builder :=
  ⟨.holding (values.map typeIdOf), Vec3D.holding (slotsOf threeD? values),
    .holding id (slotsOf uniform? values)⟩

/-- The columns of the null markers and of the two arms. -/
def children (values : List (Option Scale3D)) : List Column :=
  [.null ((values.map typeIdOf).count nullMarkersTypeId),
    Vec3D.column (slotsOf threeD? values),
    .scalar .float32 ((slotsOf uniform? values).map (.ofOption .zero))]

/-- The column of a list of scalings. -/
def column (values : List (Option Scale3D)) : Column :=
  .union (DenseUnion.arms armFields) .dense (values.map typeIdOf)
    (offsetsOf (values.map typeIdOf)) (children values)

theorem threeDTypeId_ne : threeDTypeId ≠ nullMarkersTypeId := by decide

theorem uniformTypeId_ne : uniformTypeId ≠ nullMarkersTypeId := by decide

theorem typeIdOf_eq_threeD (value : Option Scale3D) :
    typeIdOf value = threeDTypeId ↔ (threeD? value).isSome = true := by
  rcases value with _ | _ | _ <;> simp [typeIdOf, threeD?] <;> decide

theorem typeIdOf_eq_uniform (value : Option Scale3D) :
    typeIdOf value = uniformTypeId ↔ (uniform? value).isSome = true := by
  rcases value with _ | _ | _ <;> simp [typeIdOf, uniform?] <;> decide

theorem typeIdOf_mem_arms (value : Option Scale3D) :
    typeIdOf value ∈ (DenseUnion.arms armFields).map (·.1) := by
  change typeIdOf value ∈ [nullMarkersTypeId, threeDTypeId, uniformTypeId]
  rcases value with _ | _ | _ <;> simp [typeIdOf]

/-- A value goes to an arm with a slot for every earlier value of its kind. -/
theorem armLength_holding (values : List (Option Scale3D)) (value : Option Scale3D) :
    (holding values).armLength value = (values.map typeIdOf).count (typeIdOf value) := by
  rcases value with _ | _ | _
  · rfl
  · rw [Builder.armLength, holding, Vec3D.lawful.length, length_slotsOf typeIdOf_eq_threeD,
      typeIdOf]
  · rw [Builder.armLength, holding, ScalarBuilder.length_holding,
      length_slotsOf typeIdOf_eq_uniform, typeIdOf]

/-- A value whose arm is full is refused. -/
theorem Builder.append_of_refusal {b : Builder} {value : Option Scale3D} {e : ColumnError}
    (hfull : DenseUnion.refusal (b.armLength value) = some e) :
    b.append value = (.error (.column "append" e), b) := by
  unfold append
  rw [hfull]

/-- A value is taken as long as its arm has room for it. -/
theorem append_of_room {values : List (Option Scale3D)} {value : Option Scale3D}
    (hroom : DenseUnion.refusal ((holding values).armLength value) = none) :
    (holding values).append value = (.ok (), holding (values ++ [value])) := by
  unfold Builder.append
  rw [hroom]
  rcases value with _ | factors | factor
  · simp [holding, slotsOf_concat, threeD?, uniform?, UnionEntries.recordNull_holding, typeIdOf]
  · have hentry := UnionEntries.record_holding (values.map typeIdOf) threeDTypeId_ne
    have hslot := Vec3D.total.append (slotsOf threeD? values) (some factors)
    simp [holding, slotsOf_concat, threeD?, uniform?, Vec3D.lawful.length,
      length_slotsOf typeIdOf_eq_threeD, typeIdOf, hentry, hslot]
  · have hentry := UnionEntries.record_holding (values.map typeIdOf) uniformTypeId_ne
    have hslot := ScalarBuilder.push_holding id (slotsOf uniform? values) (some factor)
    simp only [id_eq] at hslot
    simp [holding, slotsOf_concat, threeD?, uniform?, length_slotsOf typeIdOf_eq_uniform,
      typeIdOf, hentry, hslot]

theorem append_holding (values : List (Option Scale3D)) (value : Option Scale3D)
    (hlength : values.length < maxOffset) :
    (holding values).append value = (.ok (), holding (values ++ [value])) := by
  apply append_of_room
  rw [armLength_holding]
  exact DenseUnion.refusal_count _ (countable_map (by omega))

/-- Every arm has the slots of its entries. -/
theorem holdsEntries_children {values : List (Option Scale3D)}
    (hroom : Countable (values.map typeIdOf)) :
    List.Forall₂ (Column.HoldsEntries (values.map typeIdOf)) (DenseUnion.arms armFields)
      (children values) := by
  have hthreeDs := length_slotsOf_le typeIdOf_eq_threeD hroom
  have huniforms := length_slotsOf_le typeIdOf_eq_uniform hroom
  rw [armFields, DenseUnion.arms_pair]
  refine .cons (Column.holdsEntries_null hroom)
    (.cons ⟨⟨?_, ?_⟩, ?_⟩ (.cons ⟨⟨?_, ?_⟩, ?_⟩ .nil))
  · rw [Vec3D.lawful.column_length, length_slotsOf typeIdOf_eq_threeD]
    rfl
  · rwa [Vec3D.lawful.column_length]
  · exact Column.fitted?_vectors (by decide) (by rwa [List.length_map])
  · exact (List.length_map _).trans (length_slotsOf typeIdOf_eq_uniform values)
  · exact (List.length_map _).trans_le huniforms
  · exact Column.cut?_scalar _ _

/-- Finishing is nothing but making up the union. -/
theorem finish_eq (values : List (Option Scale3D)) :
    (holding values).finish =
      (Column.union? (DenseUnion.arms armFields) .dense (values.map typeIdOf)
        (offsetsOf (values.map typeIdOf)) (children values), holding []) := by
  have hthreeDs := Vec3D.total.finish (slotsOf threeD? values)
  simp only [Builder.finish, holding, hthreeDs, ScalarBuilder.finish_holding,
    UnionEntries.finish_holding, children]
  rfl

theorem union?_children {values : List (Option Scale3D)}
    (hroom : Countable (values.map typeIdOf)) :
    Column.union? (DenseUnion.arms armFields) .dense (values.map typeIdOf)
      (offsetsOf (values.map typeIdOf)) (children values) = .ok (column values) :=
  Column.union?_of_holdsEntries (holdsEntries_children hroom)
    (List.forall_mem_map.mpr fun value _ => typeIdOf_mem_arms value)

theorem finish_holding (values : List (Option Scale3D)) (hlength : values.length ≤ maxOffset) :
    (holding values).finish = (.ok (column values), holding []) := by
  rw [finish_eq, union?_children (countable_map hlength)]

theorem throughout_addressable_column_iff {values : List (Option Scale3D)} :
    (column values).Throughout Column.Addressable ↔
      (Vec3D.column (slotsOf threeD? values)).Throughout Column.Addressable := by
  simp [column, children]

theorem decode_column {values : List (Option Scale3D)}
    (hroom : Countable (values.map typeIdOf))
    (haddressable : (column values).Throughout Column.Addressable) :
    decode (column values) = .ok values := by
  have hslots : ((slotsOf uniform? values).map (Slot.ofOption Binary32.zero)).map Slot.get? =
      slotsOf uniform? values := by
    simp [Function.comp_def]
  rw [column, children, decode_union,
    Vec3D.total.decode _ (throughout_addressable_column_iff.mp haddressable), hslots]
  refine (Column.unionValues_of_resolve (f := id) hroom rfl ?_ ?_).trans (by simp)
  · rintro (_ | _)
    · exact threeDTypeId_ne
    · exact uniformTypeId_ne
  · intro entry hentry value hvalue
    cases value with
    | threeD factors =>
        have hslot := DenseUnion.armValue_slotsOf typeIdOf_eq_threeD hentry
          (by rw [hvalue]; rfl) typeName
        rw [typeIdOf, resolve, if_pos rfl, hslot]
        rfl
    | uniform factor =>
        have hslot := DenseUnion.armValue_slotsOf typeIdOf_eq_uniform hentry
          (by rw [hvalue]; rfl) typeName
        rw [typeIdOf, resolve, if_neg (by decide), if_pos rfl, hslot]
        rfl

theorem lawful : codec.Lawful holding column where
  withCapacity _ := rfl
  length values := by
    rw [← List.length_map typeIdOf]
    exact UnionEntries.length_holding _
  append := append_holding
  finish := finish_holding
  column_length _ := List.length_map _
  column_datatype _ := rfl
  decode _ hlength := decode_column (countable_map hlength)
  addressable values hlength := throughout_addressable_column_iff.mpr
    (Vec3D.total.addressable _ (Nat.le_trans (length_slotsOf_le_length _ _) hlength))
  addressable_of_ok values others hlength hdecode := by
    change decode (column values) = .ok others at hdecode
    rw [column, children, decode_union, Column.bind_eq_ok_iff] at hdecode
    obtain ⟨vectors, hvectors, -⟩ := hdecode
    exact throughout_addressable_column_iff.mpr (Vec3D.total.addressable_of_ok _ vectors
      (Nat.le_trans (length_slotsOf_le_length _ _) hlength)
      (DecodeError.within_eq_ok_iff.mp hvectors))

end Scale3D

namespace TranslationRotationScale3D

/-- The translation of every row. -/
def translations (values : List (Option TranslationRotationScale3D)) : List (Option Vec3D) :=
  values.map (·.bind (·.translation))

/-- The rotation of every row. -/
def rotations (values : List (Option TranslationRotationScale3D)) : List (Option Rotation3D) :=
  values.map (·.bind (·.rotation))

/-- The scaling of every row. -/
def scales (values : List (Option TranslationRotationScale3D)) : List (Option Scale3D) :=
  values.map (·.bind (·.scale))

/-- The direction of a row, which is there also where the transform is not. -/
def fromParentOf (value : Option TranslationRotationScale3D) : Scalar.bool.Value :=
  value.any (·.fromParent)

/-- The builder that has taken a list of transforms. -/
def holding (values : List (Option TranslationRotationScale3D)) : Builder :=
  ⟨Vec3D.holding (translations values), Rotation3D.holding (rotations values),
    Scale3D.holding (scales values), .holding (some ∘ fromParentOf) values, .holding values⟩

/-- The columns of the parts and of the direction. -/
def children (values : List (Option TranslationRotationScale3D)) : List Column :=
  [Vec3D.column (translations values), Rotation3D.column (rotations values),
    Scale3D.column (scales values), .scalar .bool (values.map fun value =>
      .value (fromParentOf value))]

/-- The column of a list of transforms. -/
def column (values : List (Option TranslationRotationScale3D)) : Column :=
  .struct fields values.length (Column.validityOf values) (children values)

@[simp] theorem length_translations (values : List (Option TranslationRotationScale3D)) :
    (translations values).length = values.length :=
  List.length_map _

@[simp] theorem length_rotations (values : List (Option TranslationRotationScale3D)) :
    (rotations values).length = values.length :=
  List.length_map _

@[simp] theorem length_scales (values : List (Option TranslationRotationScale3D)) :
    (scales values).length = values.length :=
  List.length_map _

theorem translations_concat (values : List (Option TranslationRotationScale3D))
    (value : Option TranslationRotationScale3D) :
    translations (values ++ [value]) = translations values ++ [value.bind (·.translation)] :=
  List.map_append

theorem rotations_concat (values : List (Option TranslationRotationScale3D))
    (value : Option TranslationRotationScale3D) :
    rotations (values ++ [value]) = rotations values ++ [value.bind (·.rotation)] :=
  List.map_append

theorem scales_concat (values : List (Option TranslationRotationScale3D))
    (value : Option TranslationRotationScale3D) :
    scales (values ++ [value]) = scales values ++ [value.bind (·.scale)] :=
  List.map_append

/-- The parts may be null in any row, and the direction is null in none. -/
theorem fits_children (values : List (Option TranslationRotationScale3D)) :
    List.Forall₂ (Column.Fits values.length (Column.validityOf values)) fields
      (children values) := by
  have hdirection : (Column.scalar .bool (values.map fun value =>
      .value (fromParentOf value))).occupied = none := by
    rw [← Column.occupied_scalar_value (values.map fromParentOf), List.map_map]
    rfl
  refine .cons ⟨Vec3D.lawful.column_datatype _, ?_, .inl rfl⟩
    (.cons ⟨Rotation3D.lawful.column_datatype _, ?_, .inl rfl⟩
      (.cons ⟨Scale3D.lawful.column_datatype _, ?_, .inl rfl⟩ (.cons ⟨rfl, ?_, .inr ?_⟩ .nil)))
  · rw [Vec3D.lawful.column_length, length_translations]
  · rw [Rotation3D.lawful.column_length, length_rotations]
  · rw [Scale3D.lawful.column_length, length_scales]
  · exact List.length_map _
  · rw [hdirection]
    exact Column.nullsMasked_none _

/-- A transform is taken if its rotation and its scaling are. -/
theorem append_of_parts {values : List (Option TranslationRotationScale3D)}
    {value : Option TranslationRotationScale3D}
    (hrotation : Rotation3D.codec.append (Rotation3D.holding (rotations values))
      (value.bind (·.rotation)) = (.ok (), Rotation3D.holding (rotations (values ++ [value]))))
    (hscale : Scale3D.codec.append (Scale3D.holding (scales values)) (value.bind (·.scale)) =
      (.ok (), Scale3D.holding (scales (values ++ [value])))) :
    (holding values).append value = (.ok (), holding (values ++ [value])) := by
  have htranslation : Vec3D.codec.append (Vec3D.holding (translations values))
      (value.bind (·.translation)) =
        (.ok (), Vec3D.holding (translations (values ++ [value]))) := by
    rw [translations_concat]
    exact Vec3D.total.append _ _
  have hdirection : (ScalarBuilder.holding (some ∘ fromParentOf) values).push
      (some (value.any (·.fromParent))) = .holding (some ∘ fromParentOf) (values ++ [value]) :=
    ScalarBuilder.push_holding (some ∘ fromParentOf) values value
  simp only [Builder.append, holding, htranslation, hrotation, hscale, hdirection,
    ValidityBuilder.push_holding]

/-- The parts make up a struct. -/
theorem struct?_children (values : List (Option TranslationRotationScale3D)) :
    Column.struct? fields (children values) (Column.validityOf values) = .ok (column values) :=
  Column.struct?_of_fits (fun _ => Column.length_of_validityOf) (List.cons_ne_nil _ _)
    (fits_children values)

/-- A column of transforms is made if those of its rotations and scalings are. -/
theorem finish_of_parts {values : List (Option TranslationRotationScale3D)}
    {rotationsLeft : Rotation3D.codec.Builder} {scalesLeft : Scale3D.codec.Builder}
    (hrotation : Rotation3D.codec.finish (Rotation3D.holding (rotations values)) =
      (.ok (Rotation3D.column (rotations values)), rotationsLeft))
    (hscale : Scale3D.codec.finish (Scale3D.holding (scales values)) =
      (.ok (Scale3D.column (scales values)), scalesLeft)) :
    (holding values).finish = (.ok (column values),
      { holding [] with rotation := rotationsLeft, scale := scalesLeft }) := by
  have htranslation := Vec3D.total.finish (translations values)
  have hbits := ValidityBuilder.finish_holding (β := TranslationRotationScale3D) values
  have hstruct := struct?_children values
  unfold children at hstruct
  simp only [Builder.finish, holding, htranslation, hrotation, hscale, hbits,
    ScalarBuilder.finish_holding, Function.comp_apply, Slot.ofOption, hstruct]
  rfl

theorem throughout_addressable_column_iff {values : List (Option TranslationRotationScale3D)} :
    (column values).Throughout Column.Addressable ↔
      (Vec3D.column (translations values)).Throughout Column.Addressable ∧
        (Rotation3D.column (rotations values)).Throughout Column.Addressable ∧
          (Scale3D.column (scales values)).Throughout Column.Addressable := by
  simp [column, children]

/-- A column of transforms is read if its translations, rotations and scalings are. -/
theorem decode_of_parts {values : List (Option TranslationRotationScale3D)}
    (htranslations : Vec3D.codec.decode (Vec3D.column (translations values)) =
      .ok (translations values))
    (hrotations : Rotation3D.codec.decode (Rotation3D.column (rotations values)) =
      .ok (rotations values))
    (hscales : Scale3D.codec.decode (Scale3D.column (scales values)) = .ok (scales values)) :
    decode (column values) = .ok values := by
  rw [column, children, decode_struct, htranslations, DecodeError.within_ok, Except.bind,
    hrotations, DecodeError.within_ok, Except.bind, hscales]
  apply Column.readRows_validityOf
  intro row hrow
  cases hvalue : values[row] with
  | none => rfl
  | some value =>
      have htranslationRow : Column.itemAt (translations values).toArray row =
          .ok value.translation := by
        simp [translations, hrow, hvalue]
      have hrotationRow : Column.itemAt (rotations values).toArray row = .ok value.rotation := by
        simp [rotations, hrow, hvalue]
      have hscaleRow : Column.itemAt (scales values).toArray row = .ok value.scale := by
        simp [scales, hrow, hvalue]
      have hdirectionRow : Column.itemAt (values.map fun value =>
          Slot.value (fromParentOf value)).toArray row = .ok (.value value.fromParent) := by
        simp [hrow, hvalue, fromParentOf]
      simp [decodeRow, htranslationRow, hrotationRow, hscaleRow, hdirectionRow, bind,
        Except.bind, pure, Except.pure]

theorem append_holding (values : List (Option TranslationRotationScale3D))
    (value : Option TranslationRotationScale3D) (hlength : values.length < maxOffset) :
    (holding values).append value = (.ok (), holding (values ++ [value])) := by
  apply append_of_parts
  · rw [rotations_concat]
    exact Rotation3D.lawful.append _ _ (by rwa [length_rotations])
  · rw [scales_concat]
    exact Scale3D.lawful.append _ _ (by rwa [length_scales])

theorem finish_holding (values : List (Option TranslationRotationScale3D))
    (hlength : values.length ≤ maxOffset) :
    (holding values).finish = (.ok (column values), holding []) :=
  finish_of_parts (Rotation3D.lawful.finish _ (by rwa [length_rotations]))
    (Scale3D.lawful.finish _ (by rwa [length_scales]))

theorem decode_column (values : List (Option TranslationRotationScale3D))
    (hlength : values.length ≤ maxOffset)
    (haddressable : (column values).Throughout Column.Addressable) :
    decode (column values) = .ok values := by
  obtain ⟨htranslations, hrotations, hscales⟩ := throughout_addressable_column_iff.mp haddressable
  exact decode_of_parts (Vec3D.total.decode _ htranslations)
    (Rotation3D.lawful.decode _ (by rwa [length_rotations]) hrotations)
    (Scale3D.lawful.decode _ (by rwa [length_scales]) hscales)

theorem lawful : codec.Lawful holding column where
  withCapacity _ := rfl
  length values := ValidityBuilder.length_holding values
  append := append_holding
  finish := finish_holding
  column_length _ := rfl
  column_datatype _ := rfl
  decode := decode_column
  addressable values hlength := throughout_addressable_column_iff.mpr
    ⟨Vec3D.total.addressable _ (by rwa [length_translations]),
      Rotation3D.lawful.addressable _ (by rwa [length_rotations]),
      Scale3D.lawful.addressable _ (by rwa [length_scales])⟩
  addressable_of_ok values others hlength hdecode := by
    change decode (column values) = .ok others at hdecode
    rw [column, children, decode_struct, Column.bind_eq_ok_iff] at hdecode
    obtain ⟨found, htranslations, hrest⟩ := hdecode
    obtain ⟨turns, hrotations, hrest⟩ := Column.bind_eq_ok_iff.mp hrest
    obtain ⟨factors, hscales, -⟩ := Column.bind_eq_ok_iff.mp hrest
    exact throughout_addressable_column_iff.mpr
      ⟨Vec3D.total.addressable_of_ok _ found (by rwa [length_translations])
        (DecodeError.within_eq_ok_iff.mp htranslations),
      Rotation3D.lawful.addressable_of_ok _ turns (by rwa [length_rotations])
        (DecodeError.within_eq_ok_iff.mp hrotations),
      Scale3D.lawful.addressable_of_ok _ factors (by rwa [length_scales])
        (DecodeError.within_eq_ok_iff.mp hscales)⟩

end TranslationRotationScale3D

end SpatialColumns
