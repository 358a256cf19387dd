import Mathlib.Algebra.Order.Ring.Nat
import SpatialColumns.BatchBuilder
import SpatialColumns.Column.DenseUnion
import SpatialColumns.Proofs.Column.Validity

/-!
# Lawful codecs

A codec is lawful when its builder is at every moment the one that holds the
values taken so far, and nothing else: no room set aside and no earlier column
can be told from it. The column that it finishes depends on those values alone
and reads as them exactly if it is addressable, as it is for up to `2 ^ 27` values.
The laws hold as long as an offset of 32 bits can count the values.
-/

namespace SpatialColumns.Codec

variable {α β : Type}

/-- The builder that has taken a list of values, and the column that it finishes. -/
structure Lawful (c : Codec α) (holding : List (Option α) → c.Builder)
    (column : List (Option α) → Column) : Prop where
  withCapacity (capacity : Nat) : c.withCapacity capacity = holding []
  length (values : List (Option α)) : c.length (holding values) = values.length
  append (values : List (Option α)) (value : Option α)
    (hlength : values.length < DenseUnion.maxOffset) :
    c.append (holding values) value = (.ok (), holding (values ++ [value]))
  finish (values : List (Option α)) (hlength : values.length ≤ DenseUnion.maxOffset) :
    c.finish (holding values) = (.ok (column values), holding [])
  column_length (values : List (Option α)) : (column values).length = values.length
  column_datatype (values : List (Option α)) : (column values).datatype = c.datatype
  decode (values : List (Option α)) (hlength : values.length ≤ DenseUnion.maxOffset)
    (haddressable : (column values).Throughout Column.Addressable) :
    c.decode (column values) = .ok values
  addressable (values : List (Option α)) (hlength : values.length ≤ 2 ^ 27) :
    (column values).Throughout Column.Addressable
  addressable_of_ok (values others : List (Option α))
    (hlength : values.length ≤ DenseUnion.maxOffset)
    (hdecode : c.decode (column values) = .ok others) :
    (column values).Throughout Column.Addressable

/-- A codec that is lawful for lists of every length. -/
structure Total (c : Codec α) (holding : List (Option α) → c.Builder)
    (column : List (Option α) → Column) : Prop where
  withCapacity (capacity : Nat) : c.withCapacity capacity = holding []
  length (values : List (Option α)) : c.length (holding values) = values.length
  append (values : List (Option α)) (value : Option α) :
    c.append (holding values) value = (.ok (), holding (values ++ [value]))
  finish (values : List (Option α)) : c.finish (holding values) = (.ok (column values), holding [])
  column_length (values : List (Option α)) : (column values).length = values.length
  column_datatype (values : List (Option α)) : (column values).datatype = c.datatype
  decode (values : List (Option α))
    (haddressable : (column values).Throughout Column.Addressable) :
    c.decode (column values) = .ok values
  addressable (values : List (Option α)) (hlength : values.length ≤ 2 ^ 27) :
    (column values).Throughout Column.Addressable
  addressable_of_ok (values others : List (Option α))
    (hlength : values.length ≤ DenseUnion.maxOffset)
    (hdecode : c.decode (column values) = .ok others) :
    (column values).Throughout Column.Addressable

theorem Total.lawful {c : Codec α} {holding : List (Option α) → c.Builder}
    {column : List (Option α) → Column} (h : c.Total holding column) : c.Lawful holding column where
  withCapacity := h.withCapacity
  length := h.length
  append values value _ := h.append values value
  finish values _ := h.finish values
  column_length := h.column_length
  column_datatype := h.column_datatype
  decode values _ := h.decode values
  addressable := h.addressable
  addressable_of_ok := h.addressable_of_ok

namespace Lawful

variable {c : Codec α} {holding : List (Option α) → c.Builder}
  {column : List (Option α) → Column}

/-- A column that can be counted reads as the values that it was written for exactly if each row
of a list in it can be told where it starts. -/
theorem decode_eq_ok_iff (h : c.Lawful holding column) {values : List (Option α)}
    (hlength : values.length ≤ DenseUnion.maxOffset) :
    c.decode (column values) = .ok values ↔ (column values).Throughout Column.Addressable :=
  ⟨h.addressable_of_ok values values hlength, h.decode values hlength⟩

/-- No value of a list that can be counted is refused. -/
theorem appendAll (h : c.Lawful holding column) (values more : List (Option α))
    (hlength : values.length + more.length ≤ DenseUnion.maxOffset) :
    BatchBuilder.appendAll c (holding values) more = (.ok (), holding (values ++ more)) := by
  induction more generalizing values with
  | nil => simp [BatchBuilder.appendAll]
  | cons value more ih =>
      rw [List.length_cons] at hlength
      have hrest : (values ++ [value]).length + more.length ≤ DenseUnion.maxOffset := by
        rw [List.length_append, List.length_singleton]
        omega
      rw [BatchBuilder.appendAll, h.append values value (by omega)]
      simpa using ih (values ++ [value]) hrest

/-- A codec that wraps another one's values writes the same columns. -/
theorem component (h : c.Lawful holding column) {name : String} {wrap : α → β}
    {unwrap : β → α} (hwrap : ∀ value, wrap (unwrap value) = value) :
    (c.component name wrap unwrap).Lawful
      (fun values => holding (values.map (Option.map unwrap)))
      (fun values => column (values.map (Option.map unwrap))) where
  withCapacity := h.withCapacity
  length values := by
    rw [← List.length_map (Option.map unwrap)]
    exact h.length _
  append values value hlength := by
    rw [List.map_append]
    exact h.append _ _ (by rwa [List.length_map])
  finish values hlength := h.finish _ (by rwa [List.length_map])
  column_length values := by rw [h.column_length, List.length_map]
  column_datatype values := h.column_datatype _
  decode values hlength haddressable := by
    have hdecode := h.decode _ (by rwa [List.length_map]) haddressable
    rw [decode_component_of_ok hdecode, map_wrap_unwrap hwrap]
  addressable values hlength := h.addressable _ (by rwa [List.length_map])
  addressable_of_ok values others hlength hdecode := by
    obtain ⟨inner, hinner, -⟩ := decode_component_eq_ok_iff.mp hdecode
    exact h.addressable_of_ok _ inner (by rwa [List.length_map]) hinner

end Lawful

end SpatialColumns.Codec
