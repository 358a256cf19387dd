/-! # Byte and element counts

A count is a natural number below `2 ^ 64`. Sums and products that may leave
that range are checked, saturated or wrapped; each operation here says which. -/

namespace SpatialColumns.Size

/-- The number of representable counts. -/
def modulus : Nat := 0x1_0000_0000_0000_0000

/-- The largest count. -/
def limit : Nat := modulus - 1

/-- The most bytes that one allocation may have: blocks of 128 bytes that end
below `2 ^ 63`. -/
def allocationLimit : Nat := 0x8000_0000_0000_0000 - 128

/-- The largest number of elements that a builder makes room for ahead of time. -/
def maxPresize : Nat := 64 * 1024

/-- The number of elements to make room for if `capacity` of them, which take
`bytes` bytes, are asked for. There is none if no allocation may have so many bytes. -/
def room? (capacity bytes : Nat) : Option Nat :=
  if bytes ≤ allocationLimit then some (min capacity maxPresize) else none

/-- A sum, or nothing when it is too large for a count. -/
def add? (a b : Nat) : Option Nat :=
  if a + b ≤ limit then some (a + b) else none

/-- A product, or nothing when it is too large for a count. -/
def mul? (a b : Nat) : Option Nat :=
  if a * b ≤ limit then some (a * b) else none

/-- A sum cut off at the largest count. -/
def saturatingAdd (a b : Nat) : Nat := min (a + b) limit

/-- Whether a run of `count` items from `offset` on ends within `length` of them.
An end beyond the largest count is cut off there. -/
def reaches (length offset count : Nat) : Bool := saturatingAdd offset count ≤ length

/-- A sum modulo `2 ^ 64`. -/
def wrappingAdd (a b : Nat) : Nat := (a + b) % modulus

/-- A difference modulo `2 ^ 64`. -/
def wrappingSub (a b : Nat) : Nat := (a + (modulus - b % modulus)) % modulus

theorem add?_eq_some_iff {a b c : Nat} :
    add? a b = some c ↔ a + b = c ∧ c ≤ limit := by
  unfold add?
  split <;> grind

theorem mul?_eq_some_iff {a b c : Nat} :
    mul? a b = some c ↔ a * b = c ∧ c ≤ limit := by
  unfold mul?
  split <;> grind

theorem reaches_of_le {length offset count : Nat} (h : offset + count ≤ length) :
    reaches length offset count = true := by
  unfold reaches saturatingAdd
  exact decide_eq_true (Nat.le_trans (Nat.min_le_left _ _) h)

theorem add?_eq_none_iff {a b : Nat} : add? a b = none ↔ limit < a + b := by
  unfold add?
  split <;> simp <;> omega

theorem wrappingSub_of_le {a b : Nat} (h : b ≤ a) (ha : a ≤ limit) :
    wrappingSub a b = a - b := by
  unfold wrappingSub limit modulus at *
  omega

/-- What was counted modulo `2 ^ 64` may be added to as if it had been counted exactly. -/
theorem wrappingAdd_mod (a b : Nat) : wrappingAdd (a % modulus) b = (a + b) % modulus :=
  Nat.mod_add_mod a modulus b

/-- What was counted modulo `2 ^ 64` may be subtracted from as if it had been counted exactly. -/
theorem wrappingSub_mod {a b : Nat} (h : b ≤ a) :
    wrappingSub (a % modulus) b = (a - b) % modulus := by
  unfold wrappingSub modulus
  omega

/-- A sum that wrapped comes back when what was added is taken off. -/
theorem wrappingSub_wrappingAdd {a : Nat} (b : Nat) (h : a ≤ limit) :
    wrappingSub (wrappingAdd a b) b = a := by
  have ha : a < modulus := by
    unfold limit modulus at *
    omega
  rw [wrappingAdd, wrappingSub_mod (Nat.le_add_left b a), Nat.add_sub_cancel, Nat.mod_eq_of_lt ha]

end SpatialColumns.Size
