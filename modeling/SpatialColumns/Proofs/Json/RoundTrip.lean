import SpatialColumns.Json.Spatial
import SpatialColumns.Proofs.Decimal

/-!
# Values read back from their JSON form

A float that is not finite is written as null, and so is an optional value that is absent.
The two are never taken for each other: whatever may be absent is an array or an object
when it is there, and no float is read from a null. So a value is read back as it is if all
of its floats are finite, and refused otherwise.
-/

namespace SpatialColumns

variable {α : Type} [JsonForm α]

/-- Values are read back from JSON if all of their floats are finite, and refused otherwise. -/
def ReadsBack (floats : α → List Binary32) : Prop :=
  ∀ v, (ofJson? (toJson v) : Option α) =
    if (floats v).all Binary32.isFinite then some v else none

/-- A value that is read like another one, and wraps it, is read back if the other one is. -/
theorem ReadsBack.wrapped {β : Type} [JsonForm β] {floats : α → List Binary32}
    (h : ReadsBack floats) (wrap : α → β) {a : α} {b : β} (hwrap : wrap a = b)
    (hread : (ofJson? (toJson b) : Option β) = (ofJson? (toJson a) : Option α).bind (some ∘ wrap)) :
    (ofJson? (toJson b) : Option β) =
      if (floats a).all Binary32.isFinite then some b else none := by
  rw [hread, h a]
  split
  · rw [Option.bind_some, Function.comp_apply, hwrap]
  · rfl

/-! ## Floats, bytes and vectors -/

theorem readsBack_binary32 : ReadsBack fun x : Binary32 => [x] := by
  intro x
  change (Json.ofBinary32 x).binary32? = _
  by_cases hx : x.isFinite = true
  · have hwritten : Json.ofBinary32 x = .decimal x.toDecimal := if_pos hx
    rw [hwritten]
    simp [Json.binary32?, Decimal.toBinary32?_toDecimal hx, hx]
  · have hwritten : Json.ofBinary32 x = .null := if_neg hx
    rw [hwritten]
    simp [Json.binary32?, hx]

theorem readsBack_byte : ReadsBack fun _ : UInt8 => [] := by
  intro byte
  change Json.byte? (.integer byte.toNat) = some byte
  have hrange : (0 : Int) ≤ byte.toNat ∧ (byte.toNat : Int) < 256 := by
    have hlt := byte.toNat_lt
    omega
  rw [Json.byte?, if_pos hrange]
  simp

theorem readsBack_bool : ReadsBack fun _ : Bool => [] := fun _ => rfl

/-- Items are read back exactly if each of them is. -/
theorem mapM_ofJson? {floats : α → List Binary32} (h : ReadsBack floats) (items : List α) :
    (items.map toJson).mapM ofJson? =
      if (items.flatMap floats).all Binary32.isFinite then some items else none := by
  induction items with
  | nil => rfl
  | cons item items ih =>
      rw [List.map_cons, List.mapM_cons, h item, ih, List.flatMap_cons, List.all_append]
      cases (floats item).all Binary32.isFinite <;>
        cases (items.flatMap floats).all Binary32.isFinite <;> rfl

theorem readsBack_vector {floats : α → List Binary32} (h : ReadsBack floats) (n : Nat) :
    ReadsBack fun v : Vector α n => v.toList.flatMap floats := by
  intro v
  change (do
    let values := (← (v.toList.map toJson).mapM ofJson?).toArray
    if h : values.size = n then some (⟨values, h⟩ : Vector α n) else none) = _
  rw [mapM_ofJson? h]
  split
  · have hitems : v.toList.toArray = v.toArray := Array.toArray_toList
    simp [hitems]
  · rfl

/-- Where a value that is there is never a null, an absent one is not taken for it. -/
theorem readsBack_option {floats : α → List Binary32} (h : ReadsBack floats)
    (hnull : ∀ v : α, toJson v ≠ .null) :
    ReadsBack fun v : Option α => v.elim [] floats := by
  intro v
  cases v with
  | none => rfl
  | some v =>
      apply h.wrapped some rfl
      rw [← Option.map_eq_bind]
      exact ofJson?_option_of_ne_null (hnull v)

/-! ## Spatial values -/

def Vec3D.floats (v : Vec3D) : List Binary32 := [v.x, v.y, v.z]

def Quaternion.floats (q : Quaternion) : List Binary32 := [q.x, q.y, q.z, q.w]

def Angle.floats (a : Angle) : List Binary32 := [a.radians]

def RotationAxisAngle.floats (r : RotationAxisAngle) : List Binary32 :=
  r.axis.floats ++ r.angle.floats

def Rotation3D.floats : Rotation3D → List Binary32
  | quaternion q => q.floats
  | axisAngle r => r.floats

def Scale3D.floats : Scale3D → List Binary32
  | threeD factors => factors.floats
  | uniform factor => [factor]

def TranslationRotationScale3D.floats (x : TranslationRotationScale3D) : List Binary32 :=
  x.translation.elim [] Vec3D.floats ++ x.rotation.elim [] Rotation3D.floats ++
    x.scale.elim [] Scale3D.floats

theorem readsBack_vec3D : ReadsBack Vec3D.floats := fun v =>
  (readsBack_vector readsBack_binary32 3).wrapped Vec3D.ofVector (Vec3D.ofVector_toVector v)
    Option.map_eq_bind

theorem readsBack_quaternion : ReadsBack Quaternion.floats := fun q =>
  (readsBack_vector readsBack_binary32 4).wrapped Quaternion.ofVector
    (Quaternion.ofVector_toVector q) Option.map_eq_bind

theorem readsBack_angle : ReadsBack Angle.floats := fun _ =>
  readsBack_binary32.wrapped Angle.mk rfl rfl

theorem readsBack_rotationAxisAngle : ReadsBack RotationAxisAngle.floats := by
  intro r
  have hfields : (ofJson? (toJson r) : Option RotationAxisAngle) =
      (do return ⟨← ofJson? (toJson r.axis), ← ofJson? (toJson r.angle)⟩) := rfl
  rw [hfields, readsBack_vec3D r.axis, readsBack_angle r.angle, RotationAxisAngle.floats,
    List.all_append]
  cases r.axis.floats.all Binary32.isFinite <;> cases r.angle.floats.all Binary32.isFinite <;> rfl

theorem readsBack_rotation3D : ReadsBack Rotation3D.floats := by
  intro r
  cases r with
  | quaternion q => exact readsBack_quaternion.wrapped Rotation3D.quaternion rfl rfl
  | axisAngle r => exact readsBack_rotationAxisAngle.wrapped Rotation3D.axisAngle rfl rfl

theorem readsBack_scale3D : ReadsBack Scale3D.floats := by
  intro s
  cases s with
  | threeD factors => exact readsBack_vec3D.wrapped Scale3D.threeD rfl rfl
  | uniform factor => exact readsBack_binary32.wrapped Scale3D.uniform rfl rfl

/-- A part that may be absent is an array or an object if it is there. -/
theorem toJson_vec3D_ne_null (v : Vec3D) : toJson v ≠ .null := nofun

theorem toJson_rotation3D_ne_null (r : Rotation3D) : toJson r ≠ .null := by
  cases r <;> nofun

theorem toJson_scale3D_ne_null (s : Scale3D) : toJson s ≠ .null := by
  cases s <;> nofun

theorem readsBack_translationRotationScale3D : ReadsBack TranslationRotationScale3D.floats := by
  intro x
  have hfields : (ofJson? (toJson x) : Option TranslationRotationScale3D) =
      (do return ⟨← ofJson? (toJson x.translation), ← ofJson? (toJson x.rotation),
        ← ofJson? (toJson x.scale), ← ofJson? (toJson x.fromParent)⟩) := rfl
  have htranslation := readsBack_option readsBack_vec3D toJson_vec3D_ne_null x.translation
  have hrotation := readsBack_option readsBack_rotation3D toJson_rotation3D_ne_null x.rotation
  have hscale := readsBack_option readsBack_scale3D toJson_scale3D_ne_null x.scale
  rw [hfields, htranslation, hrotation, hscale, readsBack_bool x.fromParent,
    TranslationRotationScale3D.floats, List.all_append, List.all_append]
  cases (x.translation.elim [] Vec3D.floats).all Binary32.isFinite <;>
    cases (x.rotation.elim [] Rotation3D.floats).all Binary32.isFinite <;>
      cases (x.scale.elim [] Scale3D.floats).all Binary32.isFinite <;> rfl

/-- Identifiers have no floats and are always read back. -/
theorem readsBack_uuid : ReadsBack fun _ : Uuid => [] := by
  intro u
  have hbytes := (readsBack_vector readsBack_byte 16).wrapped Uuid.mk (b := u) rfl rfl
  have hfloats : (u.bytes.toList.flatMap fun _ => ([] : List Binary32)) = [] :=
    List.flatMap_eq_nil_iff.mpr fun _ _ => rfl
  rwa [hfloats] at hbytes

/-- Every value is read back from its JSON form as it is, with the same bits in each float, the
same variants and the same parts absent, if its floats are finite, and is refused otherwise. -/
theorem ofJson?_toJson :
    ReadsBack Vec3D.floats ∧ ReadsBack Quaternion.floats ∧ ReadsBack Angle.floats ∧
    ReadsBack RotationAxisAngle.floats ∧ ReadsBack Rotation3D.floats ∧
    ReadsBack Scale3D.floats ∧ ReadsBack (fun _ : Uuid => []) ∧
    ReadsBack TranslationRotationScale3D.floats ∧
    ReadsBack (fun c : Transform3D => c.transform.floats) ∧
    ReadsBack (fun _ : IncludedSpaceView => []) :=
  ⟨readsBack_vec3D, readsBack_quaternion, readsBack_angle, readsBack_rotationAxisAngle,
    readsBack_rotation3D, readsBack_scale3D, readsBack_uuid, readsBack_translationRotationScale3D,
    fun _ => readsBack_translationRotationScale3D.wrapped Transform3D.mk rfl Option.map_eq_bind,
    fun _ => readsBack_uuid.wrapped IncludedSpaceView.mk rfl Option.map_eq_bind⟩

end SpatialColumns
