import SpatialColumns.Proofs.Codec.RoundTrip
import SpatialColumns.Proofs.Column.Cell

/-!
# Columns of structs, child by child

A struct is written row by row, and yet each of its children is the column that is
written for that part of all rows at once. An absent row has a slot in every child, so
no later row is shifted.
-/

namespace SpatialColumns

open Column
open DenseUnion (maxOffset)

variable {α : Type}

namespace Column

/-- Validity bits that mark the absent ones among a list of values: none at all if no value
is absent, else one for each value. -/
def Marks (validity : Option (List Bool)) (values : List (Option α)) : Prop :=
  (validity = none ↔ none ∉ values) ∧
    ∀ bits, validity = some bits → bits = values.map Option.isSome

theorem marks_validityOf (values : List (Option α)) : Marks (validityOf values) values := by
  have habsent : values.all Option.isSome = true ↔ none ∉ values := by
    rw [List.all_eq_true]
    constructor
    · intro h hnone
      exact absurd (h none hnone) Bool.false_ne_true
    · intro h value hmem
      cases value with
      | none => exact absurd hmem h
      | some value => rfl
  unfold Marks validityOf
  split
  next hall => exact ⟨⟨fun _ => habsent.mp hall, fun _ => rfl⟩, nofun⟩
  next hall =>
    exact ⟨⟨nofun, fun h => absurd (habsent.mpr h) hall⟩, fun _ h => (Option.some.inj h).symm⟩

theorem Marks.eq_some {validity : Option (List Bool)} {values : List (Option α)}
    (h : Marks validity values) (habsent : none ∈ values) :
    validity = some (values.map Option.isSome) := by
  cases validity with
  | none => exact absurd habsent (h.1.mp rfl)
  | some bits => rw [h.2 bits rfl]

end Column

/-- The axes have their nulls in the rows that are null. -/
theorem RotationAxisAngle.isNull_axis (values : List (Option RotationAxisAngle)) (row : Nat) :
    ((Vec3D.column (axes values)).cell row).isNull = ((column values).cell row).isNull := by
  rw [Vec3D.column, FixedSizeListBuilder.column, column, cell_fixedSizeList, cell_struct,
    validityOf_map, axes, validityOf_map]
  split <;> rfl

/-- Transforms and rotations about an axis are written child by child: each child is the column
of that part of all rows and has a slot for every row. In an absent row the parts are absent as
well, except for the direction and the angle, which are never null. -/
theorem encodeOpt_children (transforms : List (Option TranslationRotationScale3D))
    (turns : List (Option RotationAxisAngle)) (htransforms : transforms.length ≤ maxOffset)
    (hturns : turns.length ≤ maxOffset) :
    (∃ translation rotation scale validity,
      let children := [translation, rotation, scale,
        .scalar .bool (transforms.map fun value => .value (value.any (·.fromParent)))]
      TranslationRotationScale3D.codec.encodeOpt transforms =
        .ok (.struct TranslationRotationScale3D.fields transforms.length validity children) ∧
      Vec3D.codec.encodeOpt (transforms.map (·.bind (·.translation))) = .ok translation ∧
      Rotation3D.codec.encodeOpt (transforms.map (·.bind (·.rotation))) = .ok rotation ∧
      Scale3D.codec.encodeOpt (transforms.map (·.bind (·.scale))) = .ok scale ∧
      Marks validity transforms ∧ ∀ child ∈ children, child.length = transforms.length) ∧
    ∃ axis validity,
      let children := [axis, .scalar .float32
        (turns.map fun value => .value ((value.map (·.angle.radians)).getD .zero))]
      let made := Column.struct RotationAxisAngle.fields turns.length validity children
      RotationAxisAngle.codec.encodeOpt turns = .ok made ∧
      Vec3D.codec.encodeOpt (turns.map (Option.map (·.axis))) = .ok axis ∧
      Marks validity turns ∧ (∀ child ∈ children, child.length = turns.length) ∧
      ∀ row, (axis.cell row).isNull = (made.cell row).isNull := by
  constructor
  · open TranslationRotationScale3D in
    refine ⟨Vec3D.column (translations transforms), Rotation3D.column (rotations transforms),
      Scale3D.column (scales transforms), validityOf transforms, ?_, ?_, ?_, ?_,
      marks_validityOf transforms, length_of_fits (fits_children transforms)⟩
    · exact Kind.encodeOpt_of_lawful (k := .translationRotationScale3D) (by decide) lawful
        htransforms
    · exact Kind.encodeOpt_of_lawful (k := .vec3D) (by decide) Vec3D.lawful
        (by rwa [List.length_map])
    · exact Kind.encodeOpt_of_lawful (k := .rotation3D) (by decide) Rotation3D.lawful
        (by rwa [List.length_map])
    · exact Kind.encodeOpt_of_lawful (k := .scale3D) (by decide) Scale3D.lawful
        (by rwa [List.length_map])
  · open RotationAxisAngle in
    refine ⟨Vec3D.column (axes turns), validityOf turns, ?_, ?_,
      marks_validityOf turns, length_of_fits (fits_children turns), isNull_axis turns⟩
    · exact Kind.encodeOpt_of_lawful (k := .rotationAxisAngle) (by decide) lawful hturns
    · exact Kind.encodeOpt_of_lawful (k := .vec3D) (by decide) Vec3D.lawful
        (by rwa [List.length_map])

/-- Two transforms around an absent one, and an absent rotation before another. -/
theorem encodeOpt_children_sparse :
    ([some (.ofScale (.uniform .one)), none, some (.ofRotation .identity)] :
        List (Option TranslationRotationScale3D)).length ≤ maxOffset ∧
      ([none, some ⟨.zero, ⟨.one⟩⟩] : List (Option RotationAxisAngle)).length ≤ maxOffset ∧
      (∃ translation rotation scale, TranslationRotationScale3D.codec.encodeOpt
          [some (.ofScale (.uniform .one)), none, some (.ofRotation .identity)] =
            .ok (.struct TranslationRotationScale3D.fields 3 (some [true, false, true])
              [translation, rotation, scale,
                .scalar .bool [.value false, .value false, .value false]]) ∧
        Vec3D.codec.encodeOpt [none, none, none] = .ok translation ∧
        Rotation3D.codec.encodeOpt [none, none, some .identity] = .ok rotation ∧
        Scale3D.codec.encodeOpt [some (.uniform .one), none, none] = .ok scale ∧
        translation.length = 3 ∧ rotation.length = 3 ∧ scale.length = 3) ∧
      ∃ axis, RotationAxisAngle.codec.encodeOpt [none, some ⟨.zero, ⟨.one⟩⟩] =
          .ok (.struct RotationAxisAngle.fields 2 (some [false, true])
            [axis, .scalar .float32 [.value .zero, .value .one]]) ∧
        (axis.cell 0).isNull = true ∧ (axis.cell 1).isNull = false := by
  have hthree : 3 ≤ maxOffset := by decide
  have htwo : 2 ≤ maxOffset := by decide
  refine ⟨hthree, htwo, ?_⟩
  obtain ⟨⟨translation, rotation, scale, validity, hmade, htranslation, hrotation, hscale, hmarks,
    hlengths⟩, axis, bits, hturns, -, hturnMarks, -, hnulls⟩ :=
      encodeOpt_children [some (.ofScale (.uniform .one)), none, some (.ofRotation .identity)]
        [none, some ⟨.zero, ⟨.one⟩⟩] hthree htwo
  obtain rfl : validity = some [true, false, true] := hmarks.eq_some (by simp)
  obtain rfl : bits = some [false, true] := hturnMarks.eq_some (by simp)
  refine ⟨⟨translation, rotation, scale, hmade, htranslation, hrotation, hscale, ?_, ?_, ?_⟩, axis,
    hturns, ?_, ?_⟩
  · exact hlengths _ (by simp)
  · exact hlengths _ (by simp)
  · exact hlengths _ (by simp)
  · rw [hnulls, cell_struct]
    rfl
  · rw [hnulls, cell_struct]
    rfl

end SpatialColumns
