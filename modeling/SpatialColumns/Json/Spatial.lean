import SpatialColumns.IncludedSpaceView
import SpatialColumns.Json.Form
import SpatialColumns.Transform3D
/-! # Spatial values as JSON

Vectors are arrays and records are objects. A value with variants is an object
whose only key names the variant. Components are written as what they wrap. -/

namespace SpatialColumns

open JsonForm (required? optional?)

instance : JsonForm Vec3D := .via Vec3D.toVector Vec3D.ofVector

instance : JsonForm Quaternion := .via Quaternion.toVector Quaternion.ofVector

instance : JsonForm Angle where
  toJson a := .record [("radians", toJson a.radians)]
  ofJson? j := do
    match ← j.fields? ["radians"] with
    | [radians] => return ⟨← required? radians⟩
    | _ => none

instance : JsonForm RotationAxisAngle where
  toJson r := .record [("axis", toJson r.axis), ("angle", toJson r.angle)]
  ofJson? j := do
    match ← j.fields? ["axis", "angle"] with
    | [axis, angle] => return ⟨← required? axis, ← required? angle⟩
    | _ => none

instance : JsonForm Rotation3D where
  toJson
    | .quaternion q => .record [("Quaternion", toJson q)]
    | .axisAngle r => .record [("AxisAngle", toJson r)]
  ofJson? j := do
    match ← j.variant? with
    | ("Quaternion", payload) => return .quaternion (← ofJson? payload)
    | ("AxisAngle", payload) => return .axisAngle (← ofJson? payload)
    | _ => none

instance : JsonForm Scale3D where
  toJson
    | .threeD factors => .record [("ThreeD", toJson factors)]
    | .uniform factor => .record [("Uniform", toJson factor)]
  ofJson? j := do
    match ← j.variant? with
    | ("ThreeD", payload) => return .threeD (← ofJson? payload)
    | ("Uniform", payload) => return .uniform (← ofJson? payload)
    | _ => none

instance : JsonForm TranslationRotationScale3D where
  toJson x := .record [("translation", toJson x.translation), ("rotation", toJson x.rotation),
    ("scale", toJson x.scale), ("from_parent", toJson x.fromParent)]
  ofJson? j := do
    match ← j.fields? ["translation", "rotation", "scale", "from_parent"] with
    | [translation, rotation, scale, fromParent] =>
      return ⟨← optional? translation, ← optional? rotation, ← optional? scale,
        ← required? fromParent⟩
    | _ => none

instance : JsonForm Uuid where
  toJson u := .record [("bytes", toJson u.bytes)]
  ofJson? j := do
    match ← j.fields? ["bytes"] with
    | [bytes] => return ⟨← required? bytes⟩
    | _ => none

instance : JsonForm Transform3D := .via Transform3D.transform Transform3D.mk

instance : JsonForm IncludedSpaceView := .via IncludedSpaceView.uuid IncludedSpaceView.mk

end SpatialColumns
