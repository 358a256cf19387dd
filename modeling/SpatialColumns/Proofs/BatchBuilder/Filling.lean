import SpatialColumns.Proofs.BatchBuilder.Reservation
import SpatialColumns.Proofs.Codec.Lawful

/-!
# Filling a builder of a lawful codec

A builder of a lawful codec is known by the values it has taken and by the room
it has. How the values came in, and how much room there was at first, leaves no
trace in it.
-/

namespace SpatialColumns

open DenseUnion (maxOffset)

variable {α : Type} {c : Codec α} {holding : List (Option α) → c.Builder}
  {column : List (Option α) → Column} {room : Nat} {values more : List (Option α)}

namespace BatchBuilder

/-- The builder that has taken a list of values and has room for so many. -/
def filled (holding : List (Option α) → c.Builder) (room : Nat) (values : List (Option α)) :
    BatchBuilder c where
  column := holding values
  state := .ofLength values.length
  reservation := ⟨bytesFor c room⟩
  reservedElements := room

theorem fresh_eq_filled (h : c.Lawful holding column) (capacity : Nat) :
    fresh c capacity = filled holding capacity [] := by
  rw [fresh, filled, h.withCapacity]
  rfl

theorem length_filled (h : c.Lawful holding column) :
    (filled holding room values).length = values.length :=
  h.length values

theorem usable_filled (operation : String) :
    (filled holding room values).usable operation = .ok () := by
  unfold usable filled BuilderState.ofLength
  cases values <;> rfl

theorem paid_filled (hroom : bytesFor c room ≤ Size.limit) :
    (filled holding room values).Paid :=
  ⟨rfl, hroom⟩

/-- A batch that does not fit into the room is one request for what is missing. -/
theorem reserve_filled (h : c.Lawful holding column) (hc : c.Sized)
    (hroom : bytesFor c room ≤ Size.limit) (p : Pool) (count : Nat) :
    (filled holding room values).reserve p count =
      if values.length + count ≤ room then .ok (filled holding room values, p)
      else match p.raise (bytesFor c room) (bytesFor c (values.length + count)) with
        | .ok q => .ok (filled holding (values.length + count) values, q)
        | .error e => .error (.allocation "fill_array_builder" e) := by
  rw [reserve_eq hc (paid_filled hroom), length_filled h]
  rfl

/-- A batch for which there is room is taken. -/
theorem extendOpt_filled (h : c.Lawful holding column) {p q : Pool} {larger : Nat}
    (hlength : values.length + more.length ≤ maxOffset)
    (hreserve : (filled holding room values).reserve p more.length =
      .ok (filled holding larger values, q)) :
    (filled holding room values).extendOpt p more =
      (.ok (), filled holding larger (values ++ more), q) := by
  have happend : appendAll c (filled holding larger values).column more =
      (.ok (), holding (values ++ more)) :=
    h.appendAll values more hlength
  have hstate : (if c.length (holding (values ++ more)) = 0
      then (filled holding larger values).state else .filling) =
        BuilderState.ofLength (values ++ more).length := by
    rw [h.length, BuilderState.ofLength]
    split
    next hnone =>
      have : values.length = 0 := by
        rw [List.length_append] at hnone
        omega
      rw [filled, BuilderState.ofLength, if_pos this]
    next => rfl
  unfold extendOpt
  rw [usable_filled]
  simp only [hreserve, happend, hstate]
  rfl

theorem finish_filled (h : c.Lawful holding column) (hlength : values.length ≤ maxOffset) :
    (filled holding room values).finish.1 = .ok (column values) := by
  have hfinish : c.finish (filled holding room values).column = (.ok (column values), holding []) :=
    h.finish values hlength
  unfold finish
  rw [usable_filled]
  simp only [hfinish]

end BatchBuilder

open BatchBuilder in
/-- Encoding needs nothing but the bytes for all values, and gives the codec's own column. -/
theorem Codec.Lawful.encodeOptIn_fst (h : c.Lawful holding column) (hc : c.Sized) (p : Pool)
    (hlength : values.length ≤ maxOffset) :
    (c.encodeOptIn p values).1 =
      match p.raise 0 (bytesFor c values.length) with
      | .ok _ => .ok (column values)
      | .error e => .error (.context c.name (.allocation "new_array_builder" e)) := by
  unfold encodeOptIn
  rw [openIn_eq]
  cases hraise : p.raise 0 (bytesFor c values.length) with
  | error e => rfl
  | ok q =>
      have hroom : bytesFor c values.length ≤ Size.limit := Pool.le_limit_of_raise hraise
      have hreserve : (filled holding values.length []).reserve q values.length =
          .ok (filled holding values.length [], q) := by
        rw [reserve_filled h hc hroom]
        exact if_pos (by simp)
      have hextend := extendOpt_filled h (by simpa using hlength) hreserve
      simp only [fresh_eq_filled h, hextend]
      exact finish_filled h hlength

end SpatialColumns
