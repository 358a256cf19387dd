/-! # Single-precision numbers

A `Binary32` is a bit pattern of the IEEE 754 binary32 format. Two values are
the same value exactly when their bits agree; `==` and `compare?` are the
numeric comparisons, under which the two zeros are equal and a NaN is not
even equal to itself. -/

namespace SpatialColumns

structure Binary32 where
  bits : UInt32
  deriving DecidableEq, Inhabited, Repr

namespace Binary32

def zero : Binary32 := ⟨0⟩

def one : Binary32 := ⟨0x3f800000⟩

/-- The number that the bits stand for. -/
def toFloat (x : Binary32) : Float32 := Float32.ofBits x.bits

def ofFloat (x : Float32) : Binary32 := ⟨x.toBits⟩

/-- Numeric equality. -/
instance : BEq Binary32 where
  beq x y := x.toFloat == y.toFloat

/-- The correctly rounded product. -/
instance : Mul Binary32 where
  mul x y := ofFloat (x.toFloat * y.toFloat)

/-- Numeric order; a NaN is comparable with nothing. -/
def compare? (x y : Binary32) : Option Ordering :=
  if x.toFloat < y.toFloat then some .lt
  else if y.toFloat < x.toFloat then some .gt
  else if x == y then some .eq
  else none

/-- The sign bit. -/
def negative (x : Binary32) : Bool := 1 <<< 31 ≤ x.bits.toNat

/-- The bits below the sign. -/
def magnitude (x : Binary32) : Nat := x.bits.toNat % (1 <<< 31)

/-- The magnitude of both infinities; larger magnitudes are NaNs. -/
def infinity : Nat := 0x7f800000

def isFinite (x : Binary32) : Bool := x.magnitude < infinity

def isNaN (x : Binary32) : Bool := infinity < x.magnitude

/-- The pattern with the given sign and magnitude. -/
def ofMagnitude (negative : Bool) (magnitude : Nat) : Binary32 :=
  ⟨UInt32.ofNat (magnitude + if negative then 1 <<< 31 else 0)⟩

theorem ofMagnitude_magnitude (x : Binary32) :
    ofMagnitude x.negative x.magnitude = x := by
  obtain ⟨bits⟩ := x
  have h := bits.toNat_lt
  simp only [ofMagnitude, negative, magnitude, decide_eq_true_eq, mk.injEq,
    Nat.reduceShiftLeft]
  apply UInt32.toNat_inj.mp
  rw [UInt32.toNat_ofNat']
  split <;> omega

end Binary32

end SpatialColumns
