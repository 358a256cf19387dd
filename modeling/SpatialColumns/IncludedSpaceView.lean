import SpatialColumns.Uuid
/-! # The space view component

The identifier of a space view that a container includes. -/

namespace SpatialColumns

structure IncludedSpaceView where
  uuid : Uuid
  deriving DecidableEq, Inhabited, Repr

namespace IncludedSpaceView

def ofBytes (bytes : Vector UInt8 16) : IncludedSpaceView := ⟨⟨bytes⟩⟩

/-- The same component with another identifier. -/
def set (_ : IncludedSpaceView) (uuid : Uuid) : IncludedSpaceView := ⟨uuid⟩

def typeName : String := "rerun.blueprint.components.IncludedSpaceView"

def codec : Codec IncludedSpaceView := Uuid.codec.component typeName mk uuid

end IncludedSpaceView

end SpatialColumns
