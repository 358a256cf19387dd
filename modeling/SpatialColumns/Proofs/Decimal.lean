import Mathlib.Tactic.Ring
import SpatialColumns.Decimal

/-!
# The numeral of a finite number gives the number back

The numeral of a finite value is exact, so the quotient that is rounded for it is the
significand times a power of two. Its leading bit stands where the exponent says, all bits
below the significand are zero, and neither bound on the powers of ten comes near it.
-/

namespace SpatialColumns

namespace Binary32

variable {x : Binary32}

theorem scale_le (hx : x.isFinite = true) : x.scale ≤ 253 := by
  have hmagnitude : x.magnitude < 0x7f800000 := of_decide_eq_true hx
  rw [scale, Nat.shiftRight_eq_div_pow]
  omega

theorem significand_lt (x : Binary32) : x.significand < 2 ^ 24 := by
  simp only [significand, Nat.reduceShiftLeft]
  split <;> omega

/-- A significand of less than 24 bits comes with the least exponent only. -/
theorem scale_or_significand (x : Binary32) :
    x.scale = 0 ∧ x.significand < 2 ^ 23 ∨ 2 ^ 23 ≤ x.significand := by
  simp only [scale, significand, Nat.reduceShiftLeft]
  split <;> omega

/-- The exponent is that of the leading bit but for the 23 bits behind it. -/
theorem log2_mul_scale (x : Binary32) : (x.significand * 2 ^ x.scale).log2 - 23 = x.scale := by
  obtain ⟨hscale, hsmall⟩ | hlarge := x.scale_or_significand
  · rw [hscale, Nat.pow_zero, Nat.mul_one]
    by_cases hzero : x.significand = 0
    · rw [hzero]
      rfl
    · have hlog2 : x.significand.log2 < 23 := (Nat.log2_lt hzero).mpr hsmall
      omega
  · have hpos : 0 < 2 ^ x.scale := Nat.two_pow_pos _
    have hlower : 2 ^ (23 + x.scale) ≤ x.significand * 2 ^ x.scale := by
      rw [Nat.pow_add]
      exact Nat.mul_le_mul_right _ hlarge
    have hupper : x.significand * 2 ^ x.scale < 2 ^ (23 + x.scale + 1) := by
      rw [Nat.add_right_comm, Nat.pow_add]
      exact Nat.mul_lt_mul_of_pos_right x.significand_lt hpos
    have hvalue : x.significand * 2 ^ x.scale ≠ 0 := by omega
    have hlog2 := (Nat.log2_eq_iff hvalue).mpr ⟨hlower, hupper⟩
    omega

/-- A quotient that is exactly the value of a finite number is rounded to its magnitude. -/
theorem roundMagnitude_of_exact (hx : x.isFinite = true) {numerator denominator : Nat}
    (hpos : 0 < denominator)
    (hexact : numerator * 2 ^ 149 = x.significand * 2 ^ x.scale * denominator) :
    roundMagnitude numerator denominator = x.magnitude := by
  have hscaled : numerator <<< 149 = x.significand * 2 ^ x.scale * denominator := by
    rw [Nat.shiftLeft_eq, hexact]
  have hshift : (numerator <<< 149 / denominator).log2 - 23 = x.scale := by
    rw [hscaled, Nat.mul_div_cancel _ hpos, x.log2_mul_scale]
  have hunits : numerator <<< 149 = x.significand * (denominator <<< x.scale) := by
    rw [hscaled, Nat.shiftLeft_eq]
    ring
  have hround : roundHalfEven (numerator <<< 149) (denominator <<< x.scale) = x.significand := by
    rw [hunits]
    apply roundHalfEven_mul
    rw [Nat.shiftLeft_eq]
    exact Nat.mul_pos hpos (Nat.two_pow_pos _)
  have hmagnitude : x.magnitude ≤ infinity := Nat.le_of_lt (of_decide_eq_true hx)
  simp only [roundMagnitude, hshift, hround, x.magnitude_eq, Nat.min_eq_left hmagnitude]

/-! ## Numerals -/

theorem toDecimal_of_le (h : 149 ≤ x.scale) :
    x.toDecimal = ⟨x.negative, x.significand * 2 ^ (x.scale - 149), 0⟩ := by
  rw [toDecimal, if_pos h, Nat.shiftLeft_eq]

theorem toDecimal_of_lt {k : Nat} (hk : 0 < k) (h : x.scale + k = 149) :
    x.toDecimal = ⟨x.negative, x.significand * 5 ^ k, -k⟩ := by
  have hscale : ¬ 149 ≤ x.scale := by omega
  have hpower : 149 - x.scale = k := by omega
  have hexponent : (x.scale : Int) - 149 = -k := by omega
  rw [toDecimal, if_neg hscale, hpower, hexponent]
  rfl

/-- Either the value is an integer, or its numeral has a negative exponent. -/
theorem le_scale_or_exists (x : Binary32) :
    149 ≤ x.scale ∨ ∃ k, 0 < k ∧ x.scale + k = 149 := by
  by_cases h : 149 ≤ x.scale
  · exact .inl h
  · exact .inr ⟨149 - x.scale, by omega, by omega⟩

end Binary32

open Binary32

namespace Decimal

variable {x : Binary32}

/-- The quotient of a numeral is the value that the numeral was written for. -/
theorem ratio_toDecimal (x : Binary32) :
    0 < x.toDecimal.ratio.2 ∧
      x.toDecimal.ratio.1 * 2 ^ 149 = x.significand * 2 ^ x.scale * x.toDecimal.ratio.2 := by
  obtain hinteger | ⟨k, hk, hscale⟩ := x.le_scale_or_exists
  · have hpower : 2 ^ x.scale = 2 ^ (x.scale - 149) * 2 ^ 149 := by
      rw [← Nat.pow_add, Nat.sub_add_cancel hinteger]
    rw [toDecimal_of_le hinteger, hpower]
    simp only [ratio, Int.le_refl, if_true]
    constructor
    · exact Nat.one_pos
    · simp only [Int.toNat_zero, Nat.pow_eq, Nat.pow_zero]
      ring
  · have hpower : 2 ^ 149 = 2 ^ x.scale * 2 ^ k := by rw [← Nat.pow_add, hscale]
    have hten : 10 ^ k = 2 ^ k * 5 ^ k := (Nat.mul_pow 2 5 k)
    have hnegative : ¬ (0 : Int) ≤ -k := by omega
    rw [toDecimal_of_lt hk hscale, hpower]
    simp only [ratio, if_neg hnegative, Int.neg_neg, Int.toNat_natCast, Nat.pow_eq, hten]
    constructor
    · exact Nat.mul_pos (Nat.two_pow_pos _) (Nat.pow_pos (by decide))
    · ring

/-- The digits of a numeral are zero for the zeros only. -/
theorem magnitude_eq_zero (hdigits : x.toDecimal.digits = 0) : x.magnitude = 0 := by
  have hsignificand : x.significand = 0 := by
    obtain hinteger | ⟨k, hk, hscale⟩ := x.le_scale_or_exists
    · rw [toDecimal_of_le hinteger] at hdigits
      exact (Nat.mul_eq_zero.mp hdigits).resolve_right (Nat.two_pow_pos _).ne'
    · rw [toDecimal_of_lt hk hscale] at hdigits
      exact (Nat.mul_eq_zero.mp hdigits).resolve_right (Nat.pow_pos (by decide)).ne'
  obtain ⟨hscale, -⟩ | hlarge := x.scale_or_significand
  · rw [← x.magnitude_eq, hscale, hsignificand]
    rfl
  · omega

theorem lowerLog2_toDecimal_lt (hx : x.isFinite = true) (hdigits : x.toDecimal.digits ≠ 0) :
    x.toDecimal.lowerLog2 < 128 := by
  have hlargest := scale_le hx
  obtain hinteger | ⟨k, hk, hscale⟩ := x.le_scale_or_exists
  · rw [toDecimal_of_le hinteger] at hdigits ⊢
    have hlt : x.significand * 2 ^ (x.scale - 149) < 2 ^ (24 + (x.scale - 149)) := by
      rw [Nat.pow_add]
      exact Nat.mul_lt_mul_of_pos_right x.significand_lt (Nat.two_pow_pos _)
    have hlog2 : (x.significand * 2 ^ (x.scale - 149)).log2 < 24 + (x.scale - 149) :=
      (Nat.log2_lt hdigits).mpr hlt
    simp only [lowerLog2, Int.mul_zero]
    omega
  · rw [toDecimal_of_lt hk hscale] at hdigits ⊢
    have height : 5 ^ k ≤ 2 ^ (3 * k) := by
      rw [Nat.pow_mul]
      exact Nat.pow_le_pow_left (by decide) k
    have hlt : x.significand * 5 ^ k < 2 ^ (24 + 3 * k) := by
      rw [Nat.pow_add]
      exact Nat.mul_lt_mul_of_lt_of_le x.significand_lt height (Nat.two_pow_pos _)
    have hlog2 : (x.significand * 5 ^ k).log2 < 24 + 3 * k := (Nat.log2_lt hdigits).mpr hlt
    have hnegative : ¬ (0 : Int) ≤ -k := by omega
    simp only [lowerLog2, if_neg hnegative]
    omega

theorem lt_upperLog2_toDecimal (hdigits : x.toDecimal.digits ≠ 0) :
    -150 < x.toDecimal.upperLog2 := by
  obtain hinteger | ⟨k, hk, hscale⟩ := x.le_scale_or_exists
  · rw [toDecimal_of_le hinteger]
    simp only [upperLog2, Int.mul_zero]
    omega
  · rw [toDecimal_of_lt hk hscale] at hdigits ⊢
    have hpositive : 0 < x.significand := Nat.pos_of_ne_zero (Nat.mul_ne_zero_iff.mp hdigits).1
    have hle : 2 ^ (2 * k) ≤ x.significand * 5 ^ k := by
      rw [Nat.pow_mul]
      exact Nat.le_trans (Nat.pow_le_pow_left (by decide) k) (Nat.le_mul_of_pos_left _ hpositive)
    have hlog2 : 2 * k ≤ (x.significand * 5 ^ k).log2 := (Nat.le_log2 hdigits).mpr hle
    have hnegative : ¬ (0 : Int) ≤ -k := by omega
    simp only [upperLog2, if_neg hnegative]
    omega

/-- The numeral of a finite value is read as this value. -/
theorem toBinary32?_toDecimal (hx : x.isFinite = true) : x.toDecimal.toBinary32? = some x := by
  have hnegative : x.toDecimal.negative = x.negative := by
    unfold toDecimal
    split <;> rfl
  by_cases hdigits : x.toDecimal.digits = 0
  · rw [toBinary32?, if_pos hdigits, hnegative, ← magnitude_eq_zero hdigits, ofMagnitude_magnitude]
  · obtain ⟨hpos, hexact⟩ := ratio_toDecimal x
    have hnearest : ofRatio x.toDecimal.negative x.toDecimal.ratio.1 x.toDecimal.ratio.2 = x := by
      rw [ofRatio, roundMagnitude_of_exact hx hpos hexact, hnegative, ofMagnitude_magnitude]
    have hlower : ¬ 128 ≤ x.toDecimal.lowerLog2 :=
      Int.not_le.mpr (lowerLog2_toDecimal_lt hx hdigits)
    have hupper : ¬ x.toDecimal.upperLog2 ≤ -150 := Int.not_le.mpr (lt_upperLog2_toDecimal hdigits)
    rw [toBinary32?, if_neg hdigits, if_neg hlower, if_neg hupper]
    simp only [hnearest, hx, if_true]

end Decimal

end SpatialColumns
