import SpatialColumns.Binary32
/-! # Decimal numerals and the nearest single-precision number

A numeral is a sign, a natural number and a power of ten. `Binary32.ofRatio`
rounds an exact quotient to the nearest binary32 value, ties to the even
significand; every finite binary32 value has an exact numeral, and rounding
that numeral gives the value back. -/

namespace SpatialColumns

/-- The number `± digits · 10 ^ exponent`. -/
structure Decimal where
  negative : Bool
  digits : Nat
  exponent : Int
  deriving DecidableEq, Repr

/-- The integer nearest to a quotient, the even one of two that are equally near. -/
def roundHalfEven (numerator denominator : Nat) : Nat :=
  let quotient := numerator / denominator
  let twice := 2 * (numerator % denominator)
  if denominator < twice ∨ (twice = denominator ∧ quotient % 2 = 1)
  then quotient + 1 else quotient

theorem roundHalfEven_mul (n d : Nat) (h : 0 < d) : roundHalfEven (n * d) d = n := by
  unfold roundHalfEven
  simp [Nat.mul_div_cancel n h]
  omega

namespace Binary32

/-- The magnitude nearest to a quotient. The quotient is taken in units of the
least positive value, and the bits below the 24 leading ones are rounded off. -/
def roundMagnitude (numerator denominator : Nat) : Nat :=
  let scaled := numerator <<< 149
  let shift := (scaled / denominator).log2 - 23
  min ((shift <<< 23) + roundHalfEven scaled (denominator <<< shift)) infinity

/-- The value nearest to `± numerator / denominator`. -/
def ofRatio (negative : Bool) (numerator denominator : Nat) : Binary32 :=
  ofMagnitude negative (roundMagnitude numerator denominator)

/-- The integer significand of a finite value. -/
def significand (x : Binary32) : Nat :=
  if x.magnitude >>> 23 = 0 then x.magnitude % (1 <<< 23)
  else (1 <<< 23) + x.magnitude % (1 <<< 23)

/-- The binary exponent of a finite value, counted from the least one. -/
def scale (x : Binary32) : Nat := (x.magnitude >>> 23) - 1

theorem magnitude_eq (x : Binary32) :
    (x.scale <<< 23) + x.significand = x.magnitude := by
  simp only [scale, significand, Nat.reduceShiftLeft]
  split <;> omega

/-- The exact numeral of a finite value. -/
def toDecimal (x : Binary32) : Decimal :=
  if 149 ≤ x.scale then ⟨x.negative, x.significand <<< (x.scale - 149), 0⟩
  else ⟨x.negative, x.significand * Nat.pow 5 (149 - x.scale), x.scale - 149⟩

end Binary32

namespace Decimal

/-- Numerator and denominator of the absolute value. -/
def ratio (d : Decimal) : Nat × Nat :=
  if 0 ≤ d.exponent then (d.digits * Nat.pow 10 d.exponent.toNat, 1)
  else (d.digits, Nat.pow 10 (-d.exponent).toNat)

/-- The exponent of a power of two that the absolute value reaches, unless it is
zero: a power of ten lies between those of eight and of sixteen. -/
def lowerLog2 (d : Decimal) : Int :=
  d.digits.log2 + (if 0 ≤ d.exponent then 3 else 4) * d.exponent

/-- The exponent of a power of two that the absolute value stays below. -/
def upperLog2 (d : Decimal) : Int :=
  d.digits.log2 + 1 + (if 0 ≤ d.exponent then 4 else 3) * d.exponent

/-- The nearest single-precision value. A numeral that is nearest to an infinity
has none. The two bounds spare the powers of ten of numerals that are plainly
beyond the range or nearer to zero than to the least positive value. -/
def toBinary32? (d : Decimal) : Option Binary32 :=
  if d.digits = 0 then some (Binary32.ofMagnitude d.negative 0)
  else if 128 ≤ d.lowerLog2 then none
  else if d.upperLog2 ≤ -150 then some (Binary32.ofMagnitude d.negative 0)
  else
    let nearest := Binary32.ofRatio d.negative d.ratio.1 d.ratio.2
    if nearest.isFinite then some nearest else none

end Decimal

end SpatialColumns
