import SpatialColumns.Proofs.BatchBuilder.Steps
import SpatialColumns.Proofs.Pool

/-!
# What a batch builder reserves

The sums by which a builder works out how much to reserve are checked or cut
off at the largest count. Neither is ever seen from outside: a builder holds
exactly the bytes of itself and of the values it has room for, and a request
whose sum was cut off is one that would not have fit into a count anyway.
-/

namespace SpatialColumns

namespace Codec

/-- A codec whose builders and values take some memory. -/
structure Sized {α : Type} (c : Codec α) : Prop where
  builder : 0 < c.builderSize
  element : 0 < c.elementSize

end Codec

namespace BatchBuilder

variable {α : Type} {c : Codec α}

/-- The bytes of a builder with room for a number of values. -/
def bytesFor (c : Codec α) (count : Nat) : Nat := c.builderSize + c.elementSize * count

theorem bytesFor_le_bytesFor {fewer more : Nat} (h : fewer ≤ more) :
    bytesFor c fewer ≤ bytesFor c more :=
  Nat.add_le_add_left (Nat.mul_le_mul_left _ h) _

/-- Values that take memory and can be paid for can be counted. -/
theorem lt_limit_of_bytesFor_le (hc : c.Sized) {count : Nat}
    (h : bytesFor c count ≤ Size.limit) : count < Size.limit := by
  have hle : count ≤ c.elementSize * count := Nat.le_mul_of_pos_left count hc.element
  have hpos := hc.builder
  unfold bytesFor at h
  omega

theorem openingBytes_eq (c : Codec α) (capacity : Nat) :
    openingBytes c capacity =
      if bytesFor c capacity ≤ Size.limit then some (bytesFor c capacity) else none := by
  have hsum : capacity * c.elementSize + c.builderSize = bytesFor c capacity := by
    rw [bytesFor, Nat.mul_comm, Nat.add_comm]
  unfold openingBytes footprint Size.mul? Size.add?
  split
  · simp [hsum]
  · rw [if_neg (by omega)]
    rfl

/-- The builder that has taken nothing yet. -/
def fresh (c : Codec α) (capacity : Nat) : BatchBuilder c where
  column := c.withCapacity (min capacity Size.maxPresize)
  state := .empty
  reservation := ⟨bytesFor c capacity⟩
  reservedElements := capacity

/-- Opening a builder is one request for all of its bytes. -/
theorem openIn_eq (c : Codec α) (p : Pool) (capacity : Nat) :
    openIn c p capacity =
      match p.raise 0 (bytesFor c capacity) with
      | .ok q => .ok (fresh c capacity, q)
      | .error e => .error (.context c.name (.allocation "new_array_builder" e)) := by
  unfold openIn
  rw [openingBytes_eq, Pool.raise]
  by_cases h : bytesFor c capacity ≤ Size.limit
  · simp only [if_pos h, Reservation.openIn, Nat.sub_zero]
    cases p.reserve (bytesFor c capacity) <;> rfl
  · simp only [if_neg h]

/-- A builder that holds the bytes of itself and of the values it has room for. -/
structure Paid (b : BatchBuilder c) : Prop where
  bytes : b.reservedBytes = bytesFor c b.reservedElements
  counted : b.reservedBytes ≤ Size.limit

/-- The builder after it was given room for a number of values. -/
def withRoom (b : BatchBuilder c) (room : Nat) : BatchBuilder c :=
  { b with reservation := ⟨bytesFor c room⟩, reservedElements := room }

/-- Growing a reservation is one request for the missing bytes. -/
theorem grown_eq {b : BatchBuilder c} (hb : b.Paid) (p : Pool) (needed : Nat) :
    b.grown p needed =
      match p.raise b.reservedBytes (bytesFor c (b.reservedElements + needed)) with
      | .ok q => .ok (⟨bytesFor c (b.reservedElements + needed)⟩, q)
      | .error e => .error e := by
  have hsum : bytesFor c (b.reservedElements + needed) =
      b.reservedBytes + needed * c.elementSize := by
    rw [hb.bytes, bytesFor, bytesFor, Nat.mul_add, Nat.mul_comm needed, Nat.add_assoc]
  rw [hsum, Pool.raise, Nat.add_sub_cancel_left]
  unfold grown footprint Size.mul?
  by_cases hbytes : needed * c.elementSize ≤ Size.limit
  · rw [if_pos hbytes]
    change b.reservation.grow p (needed * c.elementSize) = _
    unfold Reservation.grow Size.add?
    by_cases htotal : b.reservedBytes + needed * c.elementSize ≤ Size.limit
    · rw [if_pos htotal]
      have : b.reservation.size + needed * c.elementSize ≤ Size.limit := htotal
      rw [if_pos this]
      cases p.reserve (needed * c.elementSize) <;> rfl
    · rw [if_neg htotal]
      have : ¬ b.reservation.size + needed * c.elementSize ≤ Size.limit := htotal
      rw [if_neg this]
  · rw [if_neg hbytes, if_neg (by omega)]

/-- Making room is one request for the bytes that are missing, if any are. -/
theorem reserve_eq (hc : c.Sized) {b : BatchBuilder c} (hb : b.Paid) (p : Pool) (count : Nat) :
    b.reserve p count =
      if b.length + count ≤ b.reservedElements then .ok (b, p)
      else match p.raise b.reservedBytes (bytesFor c (b.length + count)) with
        | .ok q => .ok (b.withRoom (b.length + count), q)
        | .error e => .error (.allocation "fill_array_builder" e) := by
  have hroom : b.reservedElements < Size.limit :=
    lt_limit_of_bytesFor_le hc (hb.bytes ▸ hb.counted)
  have hneeded : b.shortfall count = min (b.length + count) Size.limit - b.reservedElements := rfl
  rw [reserve_eq_grown, grown_eq hb]
  by_cases hfits : b.length + count ≤ b.reservedElements
  · rw [if_pos (by omega), if_pos hfits]
  · rw [if_neg (by omega), if_neg hfits]
    have hsum : b.reservedElements + b.shortfall count = min (b.length + count) Size.limit := by
      omega
    rw [hsum]
    by_cases hcounted : b.length + count ≤ Size.limit
    · rw [Nat.min_eq_left hcounted]
      cases p.raise b.reservedBytes (bytesFor c (b.length + count)) <;> rfl
    · rw [Nat.min_eq_right (by omega)]
      -- What was cut off at the largest count is refused like the sum itself.
      have hlimit : Size.limit < bytesFor c Size.limit :=
        Nat.lt_of_not_le fun hle => Nat.lt_irrefl _ (lt_limit_of_bytesFor_le hc hle)
      have hlarger := Nat.lt_of_lt_of_le hlimit
        (bytesFor_le_bytesFor (c := c) (Nat.le_of_not_le hcounted))
      rw [p.raise_of_lt _ hlimit, p.raise_of_lt _ hlarger]

end BatchBuilder

end SpatialColumns
