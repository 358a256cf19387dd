/-! # Double-precision numbers

A `Binary64` is a bit pattern of the IEEE 754 binary64 format. Nothing here
computes with it. -/

namespace SpatialColumns

structure Binary64 where
  bits : UInt64
  deriving DecidableEq, Inhabited, Repr

namespace Binary64

def zero : Binary64 := ⟨0⟩

end Binary64

end SpatialColumns
