import SpatialColumns.Proofs.Codec.Lawful
import SpatialColumns.Proofs.Column.FixedSizeList
import SpatialColumns.Quaternion
import SpatialColumns.Uuid
import SpatialColumns.Vec3D

/-!
# Vectors, written and read

A vector codec is lawful as soon as the scalars of a value give the value back,
and for lists of every length. Vectors in space, quaternions and identifiers are
of this kind.
-/

namespace SpatialColumns

open DenseUnion (maxOffset)

/-- Vectors are written and read row by row. -/
theorem Codec.total_vector {α : Type} {name : String} (type : Primitive)
    {n builderSize elementSize : Nat}
    {toVector : α → Vector type.Native n} {ofVector : Vector type.Native n → α}
    (hn : n ≤ 2 ^ 4) (hvector : ∀ value, ofVector (toVector value) = value) :
    (vector name type n builderSize elementSize toVector ofVector).Total
      (fun values => FixedSizeListBuilder.holding (values.map (Option.map toVector)))
      (fun values => FixedSizeListBuilder.column type (values.map (Option.map toVector))) where
  withCapacity _ := rfl
  length values := by simp [vector]
  append values value := by simp [vector]
  finish values := by simp [vector]
  column_length values := by simp
  column_datatype _ := rfl
  decode values haddressable := by
    have hsize : n < 2 ^ 31 := Nat.lt_of_le_of_lt hn (by decide)
    have hid : (values.map (Option.map toVector)).map (Option.map ofVector) = values := by
      simp [Function.comp_def, hvector]
    simp only [vector, Column.fixedSizeListRows_column hsize haddressable.self, bind, Except.bind,
      pure, Except.pure, hid]
  addressable values hlength := by
    refine Column.throughout_addressable_column (Column.addressable_column (by omega) ?_)
    calc
      (values.map (Option.map toVector)).length * n ≤ 2 ^ 27 * 2 ^ 4 := by
        rw [List.length_map]
        exact Nat.mul_le_mul hlength hn
      _ = 2 ^ 31 := by decide
  addressable_of_ok values others hlength hdecode := by
    obtain ⟨rows, hrows, -⟩ := Column.bind_eq_ok_iff.mp hdecode
    have hcount : (values.map (Option.map toVector)).length ≤ 2 ^ 31 := by
      rw [List.length_map]
      exact Nat.le_trans hlength (by decide)
    exact Column.throughout_addressable_column
      (Column.addressable_of_fixedSizeListRows (by omega) hcount hrows)

/-- So many absent vectors may come first that the one behind them cannot be read. -/
theorem Codec.decode_vector_behind_absent {α : Type} {name : String} {type : Primitive}
    {n builderSize elementSize : Nat} {toVector : α → Vector type.Native n}
    {ofVector : Vector type.Native n → α} (hn : n < 2 ^ 31) {absent : Nat}
    (hcount : absent < 2 ^ 31) (hstart : Column.lastStart < absent * n) {last : α}
    {values : List (Option α)} :
    (vector name type n builderSize elementSize toVector ofVector).decode
        (FixedSizeListBuilder.column type
          ((List.replicate absent none ++ [some last]).map (Option.map toVector))) ≠
      .ok values := by
  intro hdecode
  obtain ⟨rows, hrows, -⟩ := Column.bind_eq_ok_iff.mp hdecode
  rw [List.map_append, List.map_replicate, List.map_singleton] at hrows
  exact Column.fixedSizeListRows_behind_absent hn hcount hstart hrows

/-- A list column of rows that can be counted has nothing beyond them. -/
theorem Column.fitted?_vectors {type : Primitive} {n : Nat} (hn : n < 2 ^ 31)
    {rows : List (Option (Vector type.Native n))} (hlength : rows.length ≤ maxOffset) :
    (FixedSizeListBuilder.column type rows).fitted? =
      some (FixedSizeListBuilder.column type rows) := by
  apply fitted?_column hn
  unfold maxOffset at hlength
  calc
    rows.length * n ≤ 2 ^ 31 * 2 ^ 31 := Nat.mul_le_mul (by omega) (by omega)
    _ ≤ Size.limit := by decide

namespace Vec3D

/-- The builder that has taken a list of vectors. -/
def holding (values : List (Option Vec3D)) : codec.Builder :=
  (.holding (values.map (Option.map toVector)) : FixedSizeListBuilder .float32 3)

/-- The column of a list of vectors. -/
def column (values : List (Option Vec3D)) : Column :=
  FixedSizeListBuilder.column .float32 (values.map (Option.map toVector))

theorem total : codec.Total holding column :=
  Codec.total_vector .float32 (by decide) ofVector_toVector

theorem lawful : codec.Lawful holding column := total.lawful

end Vec3D

namespace Quaternion

/-- The builder that has taken a list of quaternions. -/
def holding (values : List (Option Quaternion)) : codec.Builder :=
  (.holding (values.map (Option.map toVector)) : FixedSizeListBuilder .float32 4)

/-- The column of a list of quaternions. -/
def column (values : List (Option Quaternion)) : Column :=
  FixedSizeListBuilder.column .float32 (values.map (Option.map toVector))

theorem total : codec.Total holding column :=
  Codec.total_vector .float32 (by decide) ofVector_toVector

theorem lawful : codec.Lawful holding column := total.lawful

end Quaternion

namespace Uuid

/-- The builder that has taken a list of identifiers. -/
def holding (values : List (Option Uuid)) : codec.Builder :=
  (.holding (values.map (Option.map bytes)) : FixedSizeListBuilder .uint8 16)

/-- The column of a list of identifiers. -/
def column (values : List (Option Uuid)) : Column :=
  FixedSizeListBuilder.column .uint8 (values.map (Option.map bytes))

theorem total : codec.Total holding column :=
  Codec.total_vector .uint8 (by decide) fun _ => rfl

theorem lawful : codec.Lawful holding column := total.lawful

end Uuid

end SpatialColumns
