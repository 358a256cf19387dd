import SpatialColumns.Binary32
import SpatialColumns.Binary64
/-! # Scalar kinds

The kinds of value that a flat column holds, one per slot. -/

namespace SpatialColumns

/-- The kinds whose values take a fixed number of whole bytes. -/
inductive Primitive where
  | uint8
  | int8
  | int32
  | int64
  | float32
  | float64
  /-- A kind of which only the name and the width in bytes are known. Its values are bits. -/
  | other (name : String) (width : Nat)
  deriving DecidableEq, Repr

inductive Scalar where
  | bool
  | utf8
  | primitive (type : Primitive)
  deriving DecidableEq, Repr

namespace Primitive

/-- The kinds of which more is known than their name and their width. -/
def known : List Primitive := [uint8, int8, int32, int64, float32, float64]

/-- The values of a kind. -/
@[reducible] def Native : Primitive → Type
  | uint8 => UInt8
  | int8 => Int8
  | int32 => Int32
  | int64 => Int64
  | float32 => Binary32
  | float64 => Binary64
  | other _ width => BitVec (8 * width)

/-- The value without any bit set. -/
def zero : (type : Primitive) → type.Native
  | uint8 => 0
  | int8 => 0
  | int32 => 0
  | int64 => 0
  | float32 => Binary32.zero
  | float64 => Binary64.zero
  | other .. => 0

/-- The bytes that a value takes. -/
def width : Primitive → Nat
  | uint8 => 1
  | int8 => 1
  | int32 => 4
  | int64 => 8
  | float32 => 4
  | float64 => 8
  | other _ width => width

instance instDecidableEqNative : (type : Primitive) → DecidableEq type.Native
  | uint8 => inferInstanceAs (DecidableEq UInt8)
  | int8 => inferInstanceAs (DecidableEq Int8)
  | int32 => inferInstanceAs (DecidableEq Int32)
  | int64 => inferInstanceAs (DecidableEq Int64)
  | float32 => inferInstanceAs (DecidableEq Binary32)
  | float64 => inferInstanceAs (DecidableEq Binary64)
  | other _ width => inferInstanceAs (DecidableEq (BitVec (8 * width)))

/-- The name of a kind in diagnostics. -/
def name : Primitive → String
  | uint8 => "UInt8"
  | int8 => "Int8"
  | int32 => "Int32"
  | int64 => "Int64"
  | float32 => "Float32"
  | float64 => "Float64"
  | other name _ => name

end Primitive

namespace Scalar

@[match_pattern] abbrev uint8 : Scalar := primitive .uint8

@[match_pattern] abbrev int8 : Scalar := primitive .int8

@[match_pattern] abbrev int32 : Scalar := primitive .int32

@[match_pattern] abbrev int64 : Scalar := primitive .int64

@[match_pattern] abbrev float32 : Scalar := primitive .float32

@[match_pattern] abbrev float64 : Scalar := primitive .float64

/-- The values of a kind. -/
@[reducible] def Value : Scalar → Type
  | bool => Bool
  | utf8 => String
  | primitive type => type.Native

/-- What is left in a slot that is made null. -/
def zero : (s : Scalar) → s.Value
  | bool => false
  | utf8 => ""
  | primitive type => type.zero

instance instDecidableEqValue : (s : Scalar) → DecidableEq s.Value
  | bool => inferInstanceAs (DecidableEq Bool)
  | utf8 => inferInstanceAs (DecidableEq String)
  | primitive type => inferInstanceAs (DecidableEq type.Native)

/-- The name of a kind in diagnostics. -/
def name : Scalar → String
  | bool => "Boolean"
  | utf8 => "Utf8"
  | primitive type => type.name

end Scalar

end SpatialColumns
