import SpatialColumns.Binary32
/-! # Angles

An angle is a number of radians. Degrees are turned into radians, and back,
by one rounded multiplication. -/

namespace SpatialColumns

structure Angle where
  radians : Binary32
  deriving DecidableEq, BEq, Inhabited, Repr

namespace Angle

/-- The single-precision number nearest to a degree in radians. -/
def radiansPerDegree : Binary32 := ⟨0x3c8efa35⟩

/-- The single-precision number nearest to a radian in degrees. -/
def degreesPerRadian : Binary32 := ⟨0x42652ee1⟩

def ofDegrees (degrees : Binary32) : Angle := ⟨degrees * radiansPerDegree⟩

def degrees (a : Angle) : Binary32 := a.radians * degreesPerRadian

def compare? (a b : Angle) : Option Ordering := a.radians.compare? b.radians

end Angle

end SpatialColumns
