import SpatialColumns.TranslationRotationScale3D
/-! # The transform component

A transform between two spaces, as part of an entity. -/

namespace SpatialColumns

structure Transform3D where
  transform : TranslationRotationScale3D
  deriving DecidableEq, BEq, Inhabited, Repr

namespace Transform3D

def identity : Transform3D := ⟨.identity⟩

def ofTranslation (t : Vec3D) : Transform3D := ⟨.ofTranslation t⟩

def ofRotation (r : Rotation3D) : Transform3D := ⟨.ofRotation r⟩

def ofScale (s : Scale3D) : Transform3D := ⟨.ofScale s⟩

def ofTranslationRotationScale (t : Vec3D) (r : Rotation3D) (s : Scale3D) : Transform3D :=
  ⟨.ofTranslationRotationScale t r s⟩

def withFromParent (x : Transform3D) (fromParent : Bool) : Transform3D :=
  ⟨x.transform.withFromParent fromParent⟩

def typeName : String := "rerun.components.Transform3D"

def codec : Codec Transform3D :=
  TranslationRotationScale3D.codec.component typeName mk transform

end Transform3D

end SpatialColumns
