import SpatialColumns.IncludedSpaceView
import SpatialColumns.Probe
import SpatialColumns.Transform3D
/-! # The kinds of value

Every type that has a codec, as a closed list, so that values of different
types can stand side by side. -/

namespace SpatialColumns

inductive Kind where
  | vec3D
  | quaternion
  | rotationAxisAngle
  | rotation3D
  | scale3D
  | translationRotationScale3D
  | uuid
  | transform3D
  | includedSpaceView
  | faulty
  | unit
  deriving DecidableEq, Repr

namespace Kind

@[reducible] def Value : Kind → Type
  | vec3D => Vec3D
  | quaternion => Quaternion
  | rotationAxisAngle => RotationAxisAngle
  | rotation3D => Rotation3D
  | scale3D => Scale3D
  | translationRotationScale3D => TranslationRotationScale3D
  | uuid => Uuid
  | transform3D => Transform3D
  | includedSpaceView => IncludedSpaceView
  | faulty => Probe.Faulty
  | unit => Unit

/-- Equality of values, numeric where they are made of numbers. -/
instance instBEqValue : (k : Kind) → BEq k.Value
  | vec3D => inferInstanceAs (BEq Vec3D)
  | quaternion => inferInstanceAs (BEq Quaternion)
  | rotationAxisAngle => inferInstanceAs (BEq RotationAxisAngle)
  | rotation3D => inferInstanceAs (BEq Rotation3D)
  | scale3D => inferInstanceAs (BEq Scale3D)
  | translationRotationScale3D => inferInstanceAs (BEq TranslationRotationScale3D)
  | uuid => inferInstanceAs (BEq Uuid)
  | transform3D => inferInstanceAs (BEq Transform3D)
  | includedSpaceView => inferInstanceAs (BEq IncludedSpaceView)
  | faulty => inferInstanceAs (BEq Probe.Faulty)
  | unit => inferInstanceAs (BEq Unit)

def codec : (k : Kind) → Codec k.Value
  | vec3D => Vec3D.codec
  | quaternion => Quaternion.codec
  | rotationAxisAngle => RotationAxisAngle.codec
  | rotation3D => Rotation3D.codec
  | scale3D => Scale3D.codec
  | translationRotationScale3D => TranslationRotationScale3D.codec
  | uuid => Uuid.codec
  | transform3D => Transform3D.codec
  | includedSpaceView => IncludedSpaceView.codec
  | faulty => Probe.Faulty.codec
  | unit => Probe.unitCodec

/-- The registered kinds, each after the kinds that it is made of. -/
def registered : List Kind :=
  [vec3D, quaternion, rotationAxisAngle, rotation3D, scale3D, translationRotationScale3D,
    uuid, transform3D, includedSpaceView]

end Kind

end SpatialColumns
