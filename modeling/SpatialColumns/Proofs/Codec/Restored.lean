import SpatialColumns.Kind
import SpatialColumns.Proofs.Codec.Sound
import SpatialColumns.Proofs.Codec.Transform
import SpatialColumns.Proofs.Column.Restore

/-!
# The codecs of registered kinds are sound

Vectors and rotations about an axis are taken without limit. A union refuses a value whose
arm is full, and is not made if an arm has one entry too many; if it is made, no arm has more
entries than offsets can tell apart, which is all that reading and restoring it need.
-/

namespace SpatialColumns

open Column (Throughout Typed)
open DenseUnion (Countable)

theorem Vec3D.restored_column (values : List (Option Vec3D)) :
    (column values).restored = .ok (column values) :=
  Column.restored_vectors (by decide) _

theorem Vec3D.typed_column (values : List (Option Vec3D)) : (column values).Throughout Typed :=
  Column.throughout_typed_column _

theorem Vec3D.sound : codec.Sound holding column := total.sound restored_column typed_column

theorem Quaternion.restored_column (values : List (Option Quaternion)) :
    (column values).restored = .ok (column values) :=
  Column.restored_vectors (by decide) _

theorem Quaternion.typed_column (values : List (Option Quaternion)) :
    (column values).Throughout Typed :=
  Column.throughout_typed_column _

theorem Quaternion.sound : codec.Sound holding column := total.sound restored_column typed_column

theorem Uuid.sound : codec.Sound holding column :=
  total.sound (fun _ => Column.restored_vectors (by decide) _)
    fun _ => Column.throughout_typed_column _

namespace RotationAxisAngle

theorem restored_column (values : List (Option RotationAxisAngle)) :
    (column values).restored = .ok (column values) := by
  apply Column.restored_struct
  · simp only [children, List.mem_cons, List.not_mem_nil, or_false]
    rintro c (rfl | rfl)
    · exact Vec3D.restored_column _
    · exact Column.restored_scalar _ _
  · exact List.cons_ne_nil _ _
  · exact Column.struct?_of_fits (fun _ => Column.length_of_validityOf) (List.cons_ne_nil _ _)
      (fits_children values)

theorem typed_column (values : List (Option RotationAxisAngle)) :
    (column values).Throughout Typed :=
  Throughout.iff_self_parts.mpr ⟨rfl, List.forall_mem_cons.mpr
    ⟨Vec3D.typed_column _, List.forall_mem_singleton.mpr (Column.throughout_typed_scalar _)⟩⟩

theorem sound : codec.Sound holding column := total.sound restored_column typed_column

end RotationAxisAngle

/-- A union refuses a value whose arm is full and is sound if what it makes of the others is
kept, provided that offsets can tell the entries of each arm apart. -/
theorem Codec.sound_of_union {α : Type} {c : Codec α} {holding : List (Option α) → c.Builder}
    {column : List (Option α) → Column} {armLength : c.Builder → Option α → Nat}
    {arms : List (Int8 × Field)} {typeIds : List (Option α) → List Int8}
    {children : List (Option α) → List Column}
    (hcapacity : ∀ capacity, c.withCapacity capacity = holding [])
    (hrefused : ∀ {b : c.Builder} {value : Option α} {e : ColumnError},
      DenseUnion.refusal (armLength b value) = some e →
        c.append b value = (.error (.column "append" e), b))
    (htaken : ∀ {values : List (Option α)} {value : Option α},
      DenseUnion.refusal (armLength (holding values) value) = none →
        c.append (holding values) value = (.ok (), holding (values ++ [value])))
    (hfinish : ∀ values, c.finish (holding values) =
      (Column.union? arms .dense (typeIds values) (DenseUnion.offsetsOf (typeIds values))
        (children values), holding []))
    (hunion : ∀ {values : List (Option α)}, Countable (typeIds values) →
      Column.union? arms .dense (typeIds values) (DenseUnion.offsetsOf (typeIds values))
        (children values) = .ok (column values))
    (hkeeps : ∀ {values : List (Option α)}, Countable (typeIds values) →
      c.Keeps values (column values)) :
    c.Sound holding column where
  withCapacity := hcapacity
  append_ok {values value next} happend := by
    cases hroom : DenseUnion.refusal (armLength (holding values) value) with
    | some e =>
        rw [hrefused hroom] at happend
        cases happend
    | none =>
        rw [htaken hroom] at happend
        cases happend
        rfl
  finish_ok {values made left} hmade := by
    rw [hfinish, Prod.mk.injEq] at hmade
    have hroom := Column.countable_of_union? hmade.1
    rw [hunion hroom] at hmade
    exact ⟨(Except.ok.inj hmade.1).symm, hkeeps hroom⟩

namespace Rotation3D

theorem restored_column {values : List (Option Rotation3D)}
    (hroom : Countable (values.map typeIdOf)) :
    (column values).restored = .ok (column values) := by
  apply Column.restored_union
  · simp only [children, List.mem_cons, List.not_mem_nil, or_false]
    rintro c (rfl | rfl | rfl)
    · rw [Column.restored]
    · exact Quaternion.restored_column _
    · exact RotationAxisAngle.restored_column _
  · exact union?_children hroom

theorem typed_column (values : List (Option Rotation3D)) : (column values).Throughout Typed :=
  Throughout.iff_self_parts.mpr ⟨rfl, List.forall_mem_cons.mpr
    ⟨Column.throughout_typed_null _, List.forall_mem_cons.mpr
      ⟨Quaternion.typed_column _, List.forall_mem_singleton.mpr
        (RotationAxisAngle.typed_column _)⟩⟩⟩

theorem sound : codec.Sound holding column :=
  Codec.sound_of_union (fun _ => rfl) Builder.append_of_refusal append_of_room finish_eq
    union?_children fun {values} hroom =>
      ⟨decode_column hroom, restored_column hroom, rfl, typed_column values⟩

end Rotation3D

namespace Scale3D

theorem restored_column {values : List (Option Scale3D)}
    (hroom : Countable (values.map typeIdOf)) :
    (column values).restored = .ok (column values) := by
  apply Column.restored_union
  · simp only [children, List.mem_cons, List.not_mem_nil, or_false]
    rintro c (rfl | rfl | rfl)
    · rw [Column.restored]
    · exact Vec3D.restored_column _
    · exact Column.restored_scalar _ _
  · exact union?_children hroom

theorem typed_column (values : List (Option Scale3D)) : (column values).Throughout Typed :=
  Throughout.iff_self_parts.mpr ⟨rfl, List.forall_mem_cons.mpr
    ⟨Column.throughout_typed_null _, List.forall_mem_cons.mpr
      ⟨Vec3D.typed_column _, List.forall_mem_singleton.mpr (Column.throughout_typed_scalar _)⟩⟩⟩

theorem sound : codec.Sound holding column :=
  Codec.sound_of_union (fun _ => rfl) Builder.append_of_refusal append_of_room finish_eq
    union?_children fun {values} hroom =>
      ⟨decode_column hroom, restored_column hroom, rfl, typed_column values⟩

end Scale3D

namespace TranslationRotationScale3D

theorem restored_column {values : List (Option TranslationRotationScale3D)}
    (hrotations : (Rotation3D.column (rotations values)).restored =
      .ok (Rotation3D.column (rotations values)))
    (hscales : (Scale3D.column (scales values)).restored =
      .ok (Scale3D.column (scales values))) :
    (column values).restored = .ok (column values) := by
  apply Column.restored_struct
  · simp only [children, List.mem_cons, List.not_mem_nil, or_false]
    rintro c (rfl | rfl | rfl | rfl)
    · exact Vec3D.restored_column _
    · exact hrotations
    · exact hscales
    · exact Column.restored_scalar _ _
  · exact List.cons_ne_nil _ _
  · exact struct?_children values

theorem typed_column (values : List (Option TranslationRotationScale3D)) :
    (column values).Throughout Typed :=
  Throughout.iff_self_parts.mpr ⟨rfl, List.forall_mem_cons.mpr
    ⟨Vec3D.typed_column _, List.forall_mem_cons.mpr
      ⟨Rotation3D.typed_column _, List.forall_mem_cons.mpr
        ⟨Scale3D.typed_column _, List.forall_mem_singleton.mpr
          (Column.throughout_typed_scalar _)⟩⟩⟩⟩

theorem sound : codec.Sound holding column where
  withCapacity _ := rfl
  append_ok {values value next} happend := by
    change (holding values).append value = (.ok (), next) at happend
    rcases hrotation : Rotation3D.codec.append (Rotation3D.holding (rotations values))
      (value.bind (·.rotation)) with ⟨_ | _, rotation⟩
    · simp only [Builder.append, holding, Vec3D.total.append, hrotation] at happend
      cases happend
    rcases hscale : Scale3D.codec.append (Scale3D.holding (scales values))
      (value.bind (·.scale)) with ⟨_ | _, scale⟩
    · simp only [Builder.append, holding, Vec3D.total.append, hrotation, hscale] at happend
      cases happend
    have hrotationNext := Rotation3D.sound.append_ok hrotation
    have hscaleNext := Scale3D.sound.append_ok hscale
    rw [hrotationNext, ← rotations_concat] at hrotation
    rw [hscaleNext, ← scales_concat] at hscale
    rw [append_of_parts hrotation hscale] at happend
    cases happend
    rfl
  finish_ok {values made left} hfinish := by
    change (holding values).finish = (.ok made, left) at hfinish
    rcases hrotation : Rotation3D.codec.finish (Rotation3D.holding (rotations values)) with
      ⟨_ | rotationColumn, rotationsLeft⟩
    · simp only [Builder.finish, holding, Vec3D.total.finish, hrotation] at hfinish
      cases hfinish
    rcases hscale : Scale3D.codec.finish (Scale3D.holding (scales values)) with
      ⟨_ | scaleColumn, scalesLeft⟩
    · simp only [Builder.finish, holding, Vec3D.total.finish, hrotation, hscale] at hfinish
      cases hfinish
    obtain ⟨rfl, hrotations⟩ := Rotation3D.sound.finish_ok hrotation
    obtain ⟨rfl, hscales⟩ := Scale3D.sound.finish_ok hscale
    rw [finish_of_parts hrotation hscale] at hfinish
    cases hfinish
    refine ⟨rfl, fun haddressable => ?_, restored_column hrotations.restored hscales.restored, rfl,
      typed_column values⟩
    obtain ⟨htranslationsReach, hrotationsReach, hscalesReach⟩ :=
      throughout_addressable_column_iff.mp haddressable
    exact decode_of_parts (Vec3D.total.decode _ htranslationsReach)
      (hrotations.decode hrotationsReach) (hscales.decode hscalesReach)

end TranslationRotationScale3D

/-- Every registered kind has a sound codec. -/
theorem Kind.sound_of_registered {k : Kind} (hk : k ∈ registered) :
    ∃ holding column, k.codec.Sound holding column := by
  simp only [registered, List.mem_cons, List.not_mem_nil, or_false] at hk
  rcases hk with rfl | rfl | rfl | rfl | rfl | rfl | rfl | rfl | rfl
  · exact ⟨_, _, Vec3D.sound⟩
  · exact ⟨_, _, Quaternion.sound⟩
  · exact ⟨_, _, RotationAxisAngle.sound⟩
  · exact ⟨_, _, Rotation3D.sound⟩
  · exact ⟨_, _, Scale3D.sound⟩
  · exact ⟨_, _, TranslationRotationScale3D.sound⟩
  · exact ⟨_, _, Uuid.sound⟩
  · exact ⟨_, _, TranslationRotationScale3D.sound.component fun _ => rfl⟩
  · exact ⟨_, _, Uuid.sound.component fun _ => rfl⟩

end SpatialColumns
