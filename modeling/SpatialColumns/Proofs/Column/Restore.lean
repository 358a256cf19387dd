import SpatialColumns.Column.Restore
import SpatialColumns.Proofs.Column.DenseUnion
import SpatialColumns.Proofs.Column.Struct

/-!
# Columns that are restored as they are

What a reader stores of a column is enough to put it together again. The bits of its rows
are all there, the items of a list are as many as the rows take up, and a struct or a union
is made up of children that are restored as they are.
-/

namespace SpatialColumns.Column

variable {α : Type}

theorem storedBits_validityOf (values : List (Option α)) :
    storedBits values.length (validityOf values) = .ok (validityOf values) := by
  have hsealed := sealedBits_validityOf values
  cases hbits : validityOf values with
  | none => rfl
  | some bits =>
      rw [hbits, sealedBits, Option.filter_eq_some_iff] at hsealed
      rw [← length_of_validityOf hbits]
      exact storedBits_of_length hsealed.2

theorem restoredAll_of_forall {children : List Column} (h : ∀ c ∈ children, c.restored = .ok c) :
    restoredAll children = .ok children := by
  induction children with
  | nil => rfl
  | cons c children ih =>
      obtain ⟨hc, hrest⟩ := List.forall_mem_cons.mp h
      rw [restoredAll, hc, ih hrest]
      rfl

theorem restored_scalar (kind : Scalar) (slots : List (Slot kind.Value)) :
    (scalar kind slots).restored = .ok (scalar kind slots) := by
  rw [restored]

/-- A column of vectors has no items but those of its rows, and none of them is null. -/
theorem restored_vectors {type : Primitive} {n : Nat} (hn : n < 2 ^ 31)
    (rows : List (Option (Vector type.Native n))) :
    (FixedSizeListBuilder.column type rows).restored =
      .ok (FixedSizeListBuilder.column type rows) := by
  let items := (rows.flatMap FixedSizeListBuilder.slotsOf).map Slot.value
  have hsize : ¬ Int32.ofNat n < 0 := by
    rw [Int32.lt_iff_toInt_lt, Int32.toInt_ofNat_of_lt hn]
    exact Int.not_lt.mpr (Int.natCast_nonneg n)
  have hbits : sealedBits (scalar (.primitive type) items).ownValidity = none := by
    simp [items, ownValidity, sealedBits]
  have hcount : rows.length * rowSize (Int32.ofNat n) = items.length := by
    rw [rowSize_ofNat hn, List.length_map, FixedSizeListBuilder.length_flatMap_slotsOf]
  have hcut : (scalar (.primitive type) items).cut?
      (some (rows.length * rowSize (Int32.ofNat n))) = some (scalar (.primitive type) items) := by
    rw [hcount]
    exact cut?_length_scalar (.primitive type) items
  have hlist : restoredList (.required "item" (.scalar (.primitive type))) (Int32.ofNat n)
      rows.length (validityOf rows) (scalar (.primitive type) items) =
        .ok (FixedSizeListBuilder.column type rows) := by
    simp only [restoredList, if_neg hsize, hbits, hcut]
    rfl
  simp only [FixedSizeListBuilder.column, restored, storedBits_validityOf, sealedBits_validityOf,
    bind, Except.bind]
  exact hlist

theorem restored_struct {fields : List Field} {values : List (Option α)} {children : List Column}
    (hchildren : ∀ c ∈ children, c.restored = .ok c) (hfields : fields ≠ [])
    (hstruct : struct? fields children (validityOf values) =
      .ok (struct fields values.length (validityOf values) children)) :
    (struct fields values.length (validityOf values) children).restored =
      .ok (struct fields values.length (validityOf values) children) := by
  have hnonempty : fields.isEmpty = false := by simpa using hfields
  simp only [restored, restoredAll_of_forall hchildren, storedBits_validityOf, hnonempty, bind,
    Except.bind, hstruct]
  rfl

theorem restored_union {arms : List (Int8 × Field)} {mode : UnionMode} {typeIds : List Int8}
    {offsets : List Int32} {children : List Column} (hchildren : ∀ c ∈ children, c.restored = .ok c)
    (hunion : union? arms mode typeIds offsets children =
      .ok (union arms mode typeIds offsets children)) :
    (union arms mode typeIds offsets children).restored =
      .ok (union arms mode typeIds offsets children) := by
  simp only [restored, restoredAll_of_forall hchildren, bind, Except.bind, hunion]

end SpatialColumns.Column
