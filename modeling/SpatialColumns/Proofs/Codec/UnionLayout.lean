import SpatialColumns.Proofs.Codec.RoundTrip
import SpatialColumns.Proofs.Column.UnionDraft

/-!
# Columns of unions, arm by arm

A dense union is drafted entry by entry, with the values of each arm in a column of its
own. Columns of rotations and of scalings are such unions: each arm is the column of the
values that go to it, in their order.
-/

namespace SpatialColumns

open DenseUnion (maxOffset countable_map nullMarkersTypeId offsetsOf slotsOf
  length_slotsOf_le)
open UnionDraft (Drafts tagged armId typeIdOf select)

namespace Codec

variable {α : Type} {k : Nat}

/-- Values are written as the union that is drafted from them over the given children. -/
def DraftsOver (c : Codec α) (tag : α → Fin k) (fields : List Field) (values : List (Option α))
    (children : List Column) : Prop :=
  ∃ typeIds offsets,
    let made := Column.union (DenseUnion.arms fields) .dense typeIds offsets
      (.null (values.countP Option.isNone) :: children)
    c.encodeOpt values = .ok made ∧ Drafts (tagged tag values) fields children made

/-- Values are drafted if what is made of their type ids is what they are written as. -/
theorem draftsOver_of_union? {c : Codec α} {tag : α → Fin k} {idOf : Option α → Int8}
    (hid : ∀ value : Option α, typeIdOf (value.map fun value => (tag value, value)) = idOf value)
    (hk : k ≤ 126) {fields : List Field} {values : List (Option α)} {children : List Column}
    {made : Column} (hlength : values.length ≤ maxOffset)
    (hmade : made = .union (DenseUnion.arms fields) .dense (values.map idOf)
      (offsetsOf (values.map idOf))
      (.null ((values.map idOf).count nullMarkersTypeId) :: children))
    (hunion : Column.union? (DenseUnion.arms fields) .dense (values.map idOf)
      (offsetsOf (values.map idOf))
      (.null ((values.map idOf).count nullMarkersTypeId) :: children) = .ok made)
    (hencode : c.encodeOpt values = .ok made) : c.DraftsOver tag fields values children := by
  subst hmade
  refine ⟨values.map idOf, offsetsOf (values.map idOf), ?_⟩
  rw [← UnionDraft.count_nullMarkers_tagged hid hk values]
  exact ⟨hencode, UnionDraft.drafts_of_union? hid hk hlength hunion⟩

end Codec

/-- The arm that a rotation goes to. -/
def Rotation3D.arm : Rotation3D → Fin 2
  | quaternion _ => 0
  | axisAngle _ => 1

/-- Rotations are drafted over their quaternions and their rotations about an axis. -/
theorem Rotation3D.draftsOver {values : List (Option Rotation3D)}
    (hlength : values.length ≤ maxOffset) :
    codec.DraftsOver arm armFields values
      [Quaternion.column (slotsOf quaternion? values),
        RotationAxisAngle.column (slotsOf axisAngle? values)] := by
  refine Codec.draftsOver_of_union? ?_ (by decide) hlength rfl
    (union?_children (countable_map hlength)) ?_
  · rintro (_ | _ | _) <;> rfl
  · exact Kind.encodeOpt_of_lawful (k := .rotation3D) (by decide) lawful hlength

/-- The arm that a scaling goes to. -/
def Scale3D.arm : Scale3D → Fin 2
  | threeD _ => 0
  | uniform _ => 1

/-- Scalings are drafted over their factors per axis and their factors for all axes. -/
theorem Scale3D.draftsOver {values : List (Option Scale3D)} (hlength : values.length ≤ maxOffset) :
    codec.DraftsOver arm armFields values
      [Vec3D.column (slotsOf threeD? values),
        .scalar .float32 ((values.filterMap uniform?).map .value)] := by
  rw [← DenseUnion.map_ofOption_slotsOf Binary32.zero values]
  refine Codec.draftsOver_of_union? ?_ (by decide) hlength rfl
    (union?_children (countable_map hlength)) ?_
  · rintro (_ | _ | _) <;> rfl
  · exact Kind.encodeOpt_of_lawful (k := .scale3D) (by decide) lawful hlength

/-- Whatever is added to a draft, every entry is recorded and points at its own value: the
entries make up a union with the children that are finished from the arms, and resolved
against the values of the arms they give back all items in their order. Only an entry that would
point beyond the largest offset is refused, and then nothing is changed. Rotations and scalings
are written in this way. -/
theorem unions_drafted {α : Type} {fields : List Field}
    (items : List (Option (Fin fields.length × α))) (rotations : List (Option Rotation3D))
    (scales : List (Option Scale3D)) (capacity : Nat) (hfields : fields.length ≤ 126)
    (hitems : items.length ≤ maxOffset) (hrotations : rotations.length ≤ maxOffset)
    (hscales : scales.length ≤ maxOffset) :
    (∃ draft : UnionDraft fields.length α,
      (UnionDraft.start capacity).addAll items = (.ok (), draft) ∧
      draft.entries.typeIds.toList = items.map typeIdOf ∧
      draft.entries.offsets.toList.map Int32.toInt = (items.mapIdx fun entry item =>
        (((items.take entry).map typeIdOf).count (typeIdOf item) : Int)) ∧
      (∀ arm, draft.values arm = items.filterMap (select arm)) ∧
      (∀ children, draft.Children children → ∃ whole,
        List.Forall₂ (fun child part => child.fitted? = some part) children whole ∧
        draft.entries.finish (DenseUnion.arms fields) children =
          (.ok (.union (DenseUnion.arms fields) .dense draft.entries.typeIds.toList
            draft.entries.offsets.toList (.null (items.countP Option.isNone) :: whole)), {})) ∧
      ∀ name resolve, (∀ arm slot, resolve (armId arm) slot =
          some (Column.armValue ((draft.values arm).map some).toArray slot name)) →
        Column.unionValues name (Column.unionEntries .dense draft.entries.typeIds.toList
          draft.entries.offsets.toList) resolve = .ok (items.map (Option.map (·.2)))) ∧
    (∀ b : UnionEntries,
      (∀ typeId length, maxOffset < length →
        b.append typeId length = (.error (.armTooLong length), b)) ∧
      (maxOffset < b.nullMarkers → b.appendNull = (.error (.armTooLong b.nullMarkers), b))) ∧
    (∃ quaternions axisAngles,
      Quaternion.codec.encode (rotations.filterMap Rotation3D.quaternion?) = .ok quaternions ∧
      RotationAxisAngle.codec.encode (rotations.filterMap Rotation3D.axisAngle?) =
        .ok axisAngles ∧
      Rotation3D.codec.DraftsOver Rotation3D.arm Rotation3D.armFields rotations
        [quaternions, axisAngles]) ∧
    ∃ vectors, Vec3D.codec.encode (scales.filterMap Scale3D.threeD?) = .ok vectors ∧
      Scale3D.codec.DraftsOver Scale3D.arm Scale3D.armFields scales
        [vectors, .scalar .float32 ((scales.filterMap Scale3D.uniform?).map .value)] := by
  refine ⟨⟨.holding items, ?_, ?_, ?_, ?_, ?_, ?_⟩, ?_, ?_, ?_⟩
  · exact UnionDraft.addAll_holding hfields [] items (by simpa using hitems)
  · exact UnionDraft.typeIds_holding items
  · exact UnionDraft.offsets_holding hitems
  · exact fun arm => rfl
  · exact fun children hchildren => UnionDraft.finish_holding hfields hitems hchildren
  · exact fun name resolve hresolve => UnionDraft.unionValues_holding hfields hitems hresolve
  · exact fun b => ⟨fun typeId length => b.append_of_maxOffset_lt typeId,
      UnionEntries.appendNull_of_maxOffset_lt⟩
  · refine ⟨_, _, ?_, ?_, Rotation3D.draftsOver hrotations⟩
    · exact Kind.encodeOpt_of_lawful (k := .quaternion) (by decide) Quaternion.lawful
        (length_slotsOf_le Rotation3D.typeIdOf_eq_quaternion (countable_map hrotations))
    · exact Kind.encodeOpt_of_lawful (k := .rotationAxisAngle) (by decide) RotationAxisAngle.lawful
        (length_slotsOf_le Rotation3D.typeIdOf_eq_axisAngle (countable_map hrotations))
  · refine ⟨_, ?_, Scale3D.draftsOver hscales⟩
    exact Kind.encodeOpt_of_lawful (k := .vec3D) (by decide) Vec3D.lawful
      (length_slotsOf_le Scale3D.typeIdOf_eq_threeD (countable_map hscales))

/-- Arms of two scalars. -/
def scalarArms : List Field :=
  [.required "first" (.scalar .float32), .required "second" (.scalar .float32)]

/-- Items for both arms, in turns. -/
def interleaved : List (Option (Fin scalarArms.length × Binary32)) :=
  [some (⟨0, by decide⟩, .one), none, some (⟨1, by decide⟩, .zero), some (⟨0, by decide⟩, .zero)]

/-- The second value of the first arm is found at the offset one. -/
theorem unions_drafted_interleaved :
    scalarArms.length ≤ 126 ∧ interleaved.length ≤ maxOffset ∧
      ([none, some .identity] : List (Option Rotation3D)).length ≤ maxOffset ∧
      ([some (.uniform .one)] : List (Option Scale3D)).length ≤ maxOffset ∧
      ∃ (draft : UnionDraft scalarArms.length Binary32) (whole : List Column),
        (UnionDraft.start 4).addAll interleaved = (.ok (), draft) ∧
        draft.entries.typeIds.toList = [1, 0, 2, 1] ∧
        draft.entries.offsets.toList.map Int32.toInt = [0, 0, 0, 1] ∧
        draft.entries.finish (DenseUnion.arms scalarArms)
            [.scalar .float32 [.value .one, .value .zero], .scalar .float32 [.value .zero]] =
          (.ok (.union (DenseUnion.arms scalarArms) .dense draft.entries.typeIds.toList
            draft.entries.offsets.toList (.null 1 :: whole)), {}) := by
  have hfields : scalarArms.length ≤ 126 := by decide
  have hitems : interleaved.length ≤ maxOffset := by decide
  have hrotations : ([none, some .identity] : List (Option Rotation3D)).length ≤ maxOffset := by
    decide
  have hscales : ([some (.uniform .one)] : List (Option Scale3D)).length ≤ maxOffset := by decide
  refine ⟨hfields, hitems, hrotations, hscales, ?_⟩
  obtain ⟨⟨draft, hdraft, htypeIds, hoffsets, hvalues, hfinish, -⟩, -⟩ :=
    unions_drafted interleaved [none, some .identity] [some (.uniform .one)] 4 hfields hitems
      hrotations hscales
  obtain ⟨whole, -, hmade⟩ := hfinish
    [.scalar .float32 [.value .one, .value .zero], .scalar .float32 [.value .zero]]
    { lengths := by
        simp only [hvalues]
        rfl
      aligned := by decide
      countable := by decide }
  exact ⟨draft, whole, hdraft, htypeIds, hoffsets, hmade⟩

end SpatialColumns
