import Mathlib.Algebra.Order.Ring.Nat
import SpatialColumns.Column.FixedSizeList
import SpatialColumns.Proofs.Column.Rows
import SpatialColumns.Proofs.Column.Validity

/-!
# Lists of a fixed size, written and read

Row `i` of a list column takes up the `n` slots from `i * n` on, with its own
values or, where it is absent, with zeros. Because no row takes up more or
fewer, reading finds every row at its place.
-/

namespace SpatialColumns

namespace FixedSizeListBuilder

variable {type : Primitive} {n : Nat}

/-- The slots of a row. -/
def slotsOf (row : Option (Vector type.Native n)) : List type.Native :=
  match row with
  | some row => row.toList
  | none => List.replicate n type.zero

@[simp] theorem length_slotsOf (row : Option (Vector type.Native n)) :
    (slotsOf row).length = n := by
  cases row <;> simp [slotsOf]

theorem getElem?_slotsOf (row : Option (Vector type.Native n)) {slot : Nat} (hslot : slot < n) :
    (slotsOf row)[slot]? = some ((row.map (·[slot])).getD type.zero) := by
  cases row with
  | none => simp [slotsOf, hslot]
  | some row => simp [slotsOf, hslot]

theorem length_flatMap_slotsOf (rows : List (Option (Vector type.Native n))) :
    (rows.flatMap slotsOf).length = rows.length * n := by
  induction rows with
  | nil => simp
  | cons row rows ih =>
      rw [List.flatMap_cons, List.length_append, ih, length_slotsOf, List.length_cons,
        Nat.succ_mul, Nat.add_comm]

/-- The builder that was given a list of rows. -/
def holding (rows : List (Option (Vector type.Native n))) : FixedSizeListBuilder type n :=
  ⟨(rows.flatMap slotsOf).toArray, .holding rows⟩

/-- The column of a list of rows. -/
def column (type : Primitive) (rows : List (Option (Vector type.Native n))) : Column :=
  .fixedSizeList (.required "item" (.scalar (.primitive type))) (Int32.ofNat n) rows.length
    (Column.validityOf rows) (.scalar (.primitive type) ((rows.flatMap slotsOf).map .value))

@[simp] theorem length_holding (rows : List (Option (Vector type.Native n))) :
    (holding rows).length = rows.length :=
  ValidityBuilder.length_holding rows

@[simp] theorem push_holding (rows : List (Option (Vector type.Native n)))
    (row : Option (Vector type.Native n)) :
    (holding rows).push row = holding (rows ++ [row]) := by
  have hbits := ValidityBuilder.push_holding rows row
  cases row with
  | none =>
      simp only [Option.isSome_none] at hbits
      simp [push, holding, slotsOf, hbits]
  | some row =>
      simp only [Option.isSome_some] at hbits
      simp [push, holding, slotsOf, hbits, Vector.toList_toArray]

/-- Rows that are pushed one after another lie in their order. -/
theorem foldl_push_holding (rows more : List (Option (Vector type.Native n))) :
    more.foldl push (holding rows) = holding (rows ++ more) := by
  induction more generalizing rows with
  | nil => simp
  | cons row more ih => simpa using ih (rows ++ [row])

@[simp] theorem finish_holding (rows : List (Option (Vector type.Native n))) :
    (holding rows).finish = (column type rows, holding []) := by
  have hbits := ValidityBuilder.finish_holding (β := Vector type.Native n) rows
  simp only [finish, length_holding, column]
  simp [holding, hbits]

@[simp] theorem datatype_column (rows : List (Option (Vector type.Native n))) :
    (column type rows).datatype = .listOf type n := rfl

@[simp] theorem length_column (rows : List (Option (Vector type.Native n))) :
    (column type rows).length = rows.length := rfl

@[simp] theorem occupied_column (rows : List (Option (Vector type.Native n))) :
    (column type rows).occupied = (Column.validityOf rows).map Presence.ofBits := by
  rw [column, Column.occupied]

end FixedSizeListBuilder

namespace Column

open FixedSizeListBuilder

variable {type : Primitive} {n : Nat}

/-- A size that 32 bits hold is a row's number of slots. -/
@[simp] theorem rowSize_ofNat (h : n < 2 ^ 31) : rowSize (Int32.ofNat n) = n := by
  rw [rowSize, Int32.toInt_ofNat_of_lt h]
  have hmod : (n : Int) % (Size.modulus : Int) = n :=
    Int.emod_eq_of_lt (Int.natCast_nonneg n) (by unfold Size.modulus; omega)
  rw [hmod, Int.toNat_natCast]

/-- A row size up to the last start is the size itself. -/
theorem toInt_of_rowSize_le {size : Int32} (h : rowSize size ≤ lastStart) :
    size.toInt = rowSize size := by
  have hlower := size.le_toInt
  have hupper := size.toInt_lt
  unfold rowSize Size.modulus lastStart at *
  omega

/-- A row starts where the rows before it end, as long as it starts in time. -/
theorem rowStart?_of_le {size : Int32} {row : Nat} (h : row * rowSize size ≤ lastStart) :
    rowStart? size row = some (row * rowSize size) := by
  have hstart : (Int32.ofNat row).toInt * size.toInt = (row * rowSize size : Nat) := by
    rcases Nat.eq_zero_or_pos row with rfl | hrow
    · simp
    · have hsize := toInt_of_rowSize_le (Nat.le_trans (Nat.le_mul_of_pos_left _ hrow) h)
      rcases Nat.eq_zero_or_pos (rowSize size) with hzero | hpos
      · simp [hsize, hzero]
      · have hrows : row < 2 ^ 31 :=
          Nat.lt_of_le_of_lt (Nat.le_trans (Nat.le_mul_of_pos_right _ hpos) h) (by decide)
        rw [Int32.toInt_ofNat_of_lt hrows, hsize, Int.natCast_mul]
  have hmin : Int32.minValue.toInt ≤ (row * rowSize size : Nat) :=
    Int.le_trans (by decide) (Int.natCast_nonneg _)
  have hmax : ((row * rowSize size : Nat) : Int) ≤ Int32.maxValue.toInt := Int.ofNat_le.mpr h
  have hmod : ((row * rowSize size : Nat) : Int) % (Size.modulus : Int) =
      (row * rowSize size : Nat) :=
    Int.emod_eq_of_lt (Int.natCast_nonneg _)
      (Int.ofNat_lt.mpr (Nat.lt_of_le_of_lt h (by decide)))
  rw [rowStart?, hstart, if_pos ⟨hmin, hmax⟩, hmod, Int.toNat_natCast]

/-- Among the rows that 32 bits can number, one that starts later than that is out of reach. -/
theorem rowStart?_of_lt {row : Nat} (hn : n < 2 ^ 31) (hrow : row < 2 ^ 31)
    (h : lastStart < row * n) : rowStart? (Int32.ofNat n) row = none := by
  have hmax : Int32.maxValue.toInt < (row * n : Nat) := Int.ofNat_lt.mpr h
  rw [rowStart?, Int32.toInt_ofNat_of_lt hrow, Int32.toInt_ofNat_of_lt hn, ← Int.natCast_mul]
  exact if_neg fun hfits => Int.not_lt.mpr hfits.2 hmax

@[simp] theorem listRow_absent {α : Type} (values : Array α) (size : Int32) (row : Nat) :
    listRow values n size false row = .ok none := rfl

/-- A row that is present and starts in time is read off its slots. -/
theorem listRow_present {α : Type} {values : Array α} {size : Int32} {row : Nat}
    (h : row * rowSize size ≤ lastStart) :
    listRow values n size true row = (readRow values n (row * rowSize size)).map some := by
  simp only [listRow, rowStart?_of_le h, if_true]

/-- Among rows of one length, each lies where the rows before it end. -/
theorem window_flatMap {α β : Type} {f : α → List β} (hf : ∀ a, (f a).length = n)
    (rows : List α) {row : Nat} (hrow : row < rows.length) :
    ((rows.flatMap f).drop (row * n)).take n = f rows[row] := by
  induction rows generalizing row with
  | nil => cases hrow
  | cons first rows ih =>
      cases row with
      | zero => simp [hf]
      | succ row =>
          have hstart : (row + 1) * n = (f first).length + row * n := by
            rw [hf, Nat.succ_mul, Nat.add_comm]
          rw [List.flatMap_cons, hstart, List.drop_length_add_append]
          simpa using ih (Nat.lt_of_succ_lt_succ hrow)

/-- The slots of a row hold its values or, where it is absent, zeros. -/
theorem readRow_flatMap (rows : List (Option (Vector type.Native n))) {row : Nat}
    (hrow : row < rows.length) :
    readRow (rows.flatMap slotsOf).toArray n (row * n) =
      .ok (rows[row].getD (.replicate n type.zero)) := by
  let value := rows[row].getD (.replicate n type.zero)
  have hslots : (rows.flatMap slotsOf).toArray.extract (row * n) (row * n + n) =
      value.toArray := by
    apply Array.toList_inj.mp
    rw [List.extract_toArray, List.extract_eq_take_drop, Nat.add_sub_cancel_left,
      window_flatMap length_slotsOf rows hrow]
    simp only [value]
    cases rows[row] with
    | none => simp [slotsOf]
    | some row => rfl
  have hsize : ((rows.flatMap slotsOf).toArray.extract (row * n) (row * n + n)).size = n := by
    rw [hslots, value.size_toArray]
  unfold readRow
  rw [dif_pos hsize]
  exact congrArg Except.ok (Vector.toArray_inj.mp hslots)

/-- A column of lists of scalars is read row by row, each row that is present off its slots. -/
theorem fixedSizeListRows_eq (length : Nat) (validity : Option (List Bool))
    (slots : List (Slot type.Native)) :
    fixedSizeListRows type n (.listOf type n)
        (fixedSizeList (.required "item" (.scalar (.primitive type))) (Int32.ofNat n) length
          validity (scalar (.primitive type) slots)) =
      readRows length validity (listRow (slots.map Slot.raw).toArray n (Int32.ofNat n)) := by
  have hexpect : (fixedSizeList (.required "item" (.scalar (.primitive type))) (Int32.ofNat n)
      length validity (scalar (.primitive type) slots)).expect (.listOf type n) = .ok () :=
    expect_eq_ok_iff.mpr rfl
  unfold fixedSizeListRows
  simp only [hexpect, scalarSlots_scalar, bind, Except.bind]

theorem isPresent_validityOf {α : Type} {values : List (Option α)} {row : Nat}
    (hrow : row < values.length) : isPresent (validityOf values) row = values[row].isSome := by
  unfold validityOf
  split
  next hall => exact (List.all_eq_true.mp hall _ (List.getElem_mem hrow)).symm
  next => simp [isPresent, hrow]

/-- The rows of a list column are addressable if those that are there start in time. -/
theorem addressable_column_iff (hn : n < 2 ^ 31) {rows : List (Option (Vector type.Native n))} :
    (column type rows).Addressable ↔
      ∀ row, (hrow : row < rows.length) → rows[row].isSome = true → row * n ≤ lastStart := by
  simp only [column, Addressable, rowSize_ofNat hn]
  refine forall₂_congr fun row hrow => ?_
  rw [isPresent_validityOf hrow]

/-- Rows that fit together into as many slots as 32 bits can number are addressable. -/
theorem addressable_column (hn : n < 2 ^ 31) {rows : List (Option (Vector type.Native n))}
    (hslots : rows.length * n ≤ 2 ^ 31) : (column type rows).Addressable := by
  refine (addressable_column_iff hn).mpr fun row hrow _ => ?_
  rcases Nat.eq_zero_or_pos n with rfl | hpos
  · exact Nat.zero_le _
  · have hend : row * n + n ≤ rows.length * n := by
      rw [← Nat.succ_mul]
      exact Nat.mul_le_mul_right n hrow
    unfold lastStart
    omega

/-- Reading a list column gives the rows that it was written for, if they start in time. -/
theorem fixedSizeListRows_column (hn : n < 2 ^ 31) {rows : List (Option (Vector type.Native n))}
    (haddressable : (column type rows).Addressable) :
    fixedSizeListRows type n (.listOf type n) (column type rows) = .ok rows := by
  have hraw : (((rows.flatMap slotsOf).map Slot.value).map Slot.raw).toArray =
      (rows.flatMap slotsOf).toArray := by
    simp [Function.comp_def]
  rw [column, fixedSizeListRows_eq, hraw]
  apply readRows_validityOf
  intro row hrow
  cases hvalue : rows[row] with
  | none => rfl
  | some value =>
      have hstart : row * rowSize (Int32.ofNat n) ≤ lastStart := by
        rw [rowSize_ofNat hn]
        exact (addressable_column_iff hn).mp haddressable row hrow (by rw [hvalue]; rfl)
      rw [Option.isSome_some, listRow_present hstart, rowSize_ofNat hn,
        readRow_flatMap rows hrow, hvalue]
      rfl

/-- A row whose number is cut to zero is read off the slots of the first row. -/
theorem fixedSizeListRows_wrapped (type : Primitive) {n absent : Nat} (hpos : 0 < absent)
    (hcut : (Int32.ofNat absent).toInt = 0) (last : Vector type.Native n) :
    fixedSizeListRows type n (.listOf type n)
        (column type (List.replicate absent none ++ [some last])) =
      .ok (List.replicate absent none ++ [some (.replicate n type.zero)]) := by
  let rows : List (Option (Vector type.Native n)) := List.replicate absent none ++ [some last]
  let read : List (Option (Vector type.Native n)) :=
    List.replicate absent none ++ [some (.replicate n type.zero)]
  have hraw : (((rows.flatMap slotsOf).map Slot.value).map Slot.raw).toArray =
      (rows.flatMap slotsOf).toArray := by
    simp [Function.comp_def]
  have hlength : rows.length = read.length := by simp [rows, read]
  have hvalidity : validityOf rows = validityOf read := by simp [rows, read, validityOf]
  have hfirst : readRow (rows.flatMap slotsOf).toArray n 0 = .ok (.replicate n type.zero) := by
    have hzero : 0 < rows.length := by simp [rows]
    have hnone : rows[0] = none := by simp [rows, List.getElem_append_left, hpos]
    simpa [hnone] using readRow_flatMap rows hzero
  rw [column, fixedSizeListRows_eq, hraw, hlength, hvalidity]
  apply readRows_validityOf
  intro row hrow
  rcases Nat.lt_or_ge row absent with hlt | hge
  · have hnone : read[row] = none := by simp [read, List.getElem_append_left, hlt]
    rw [hnone]
    rfl
  · obtain rfl : row = absent := by
      simp only [read, List.length_append, List.length_replicate, List.length_singleton] at hrow
      omega
    have hlast : read[row] = some (.replicate n type.zero) := by simp [read]
    have hstart : rowStart? (Int32.ofNat n) row = some 0 := by
      simp only [rowStart?, hcut, Int.zero_mul]
      decide
    simp [hlast, listRow, hstart, hfirst, Except.map]

/-- If 32 bits can number the rows, reading a column ends at the first that starts too late. -/
theorem addressable_of_fixedSizeListRows (hn : n < 2 ^ 31)
    {rows others : List (Option (Vector type.Native n))} (hcount : rows.length ≤ 2 ^ 31)
    (hread : fixedSizeListRows type n (.listOf type n) (column type rows) = .ok others) :
    (column type rows).Addressable := by
  refine (addressable_column_iff hn).mpr fun row hrow hpresent => Nat.le_of_not_lt fun hstart => ?_
  rw [column, fixedSizeListRows_eq, readRows_eq fun _ => length_of_validityOf,
    presence_validityOf, mapM_eq_ok_iff] at hread
  obtain ⟨hlength, hrows⟩ := hread
  have hbits : ((rows.map Option.isSome).zipIdx).length = rows.length := by simp
  have hvalue := hrows row (hbits ▸ hrow) (hlength ▸ hbits ▸ hrow)
  simp only [List.getElem_zipIdx, List.getElem_map, Nat.zero_add, hpresent, listRow, if_true,
    rowStart?_of_lt hn (Nat.lt_of_lt_of_le hrow hcount) hstart, reduceCtorEq] at hvalue

/-- So many absent rows may come first that the row behind them cannot be read. -/
theorem fixedSizeListRows_behind_absent (hn : n < 2 ^ 31) {absent : Nat} (hcount : absent < 2 ^ 31)
    (hstart : lastStart < absent * n) {last : Vector type.Native n}
    {others : List (Option (Vector type.Native n))} :
    fixedSizeListRows type n (.listOf type n)
      (column type (List.replicate absent none ++ [some last])) ≠ .ok others := by
  intro hread
  have hrow : absent < (List.replicate absent none ++ [some last]).length := by simp
  have hrows : (List.replicate absent none ++ [some last]).length ≤ 2 ^ 31 := by
    simp only [List.length_append, List.length_replicate, List.length_singleton]
    exact hcount
  have haddressable := addressable_of_fixedSizeListRows hn hrows hread
  exact Nat.not_le.mpr hstart ((addressable_column_iff hn).mp haddressable absent hrow (by simp))

theorem throughout_typed_column (rows : List (Option (Vector type.Native n))) :
    (FixedSizeListBuilder.column type rows).Throughout Typed :=
  Throughout.iff_self_parts.mpr ⟨rfl, List.forall_mem_singleton.mpr (throughout_typed_scalar _)⟩

theorem throughout_addressable_column {rows : List (Option (Vector type.Native n))}
    (h : (column type rows).Addressable) : (column type rows).Throughout Addressable := by
  refine Throughout.iff_self_parts.mpr ⟨h, fun part hpart => ?_⟩
  obtain rfl := List.mem_singleton.mp hpart
  exact throughout_addressable_scalar _

/-- A scalar column is cut to its own length without loss. -/
theorem cut?_length_scalar (kind : Scalar) (slots : List (Slot kind.Value)) :
    (scalar kind slots).cut? (some slots.length) = some (scalar kind slots) := by
  simp [cut?, wanted?]

/-- A list column has nothing beyond its rows. -/
theorem fitted?_column (hn : n < 2 ^ 31) (rows : List (Option (Vector type.Native n)))
    (hslots : rows.length * n ≤ Size.limit) :
    (column type rows).fitted? = some (column type rows) := by
  have hmul : Size.mul? rows.length n = some (rows.length * n) :=
    Size.mul?_eq_some_iff.mpr ⟨rfl, hslots⟩
  have hcount : rows.length * n = ((rows.flatMap slotsOf).map Slot.value).length := by
    rw [List.length_map, length_flatMap_slotsOf]
  rw [fitted?, column, cut?]
  simp only [wanted?_none, cutBits?_validityOf, rowSize_ofNat hn, hmul, Option.bind_eq_bind,
    Option.bind_some, Option.pure_def]
  rw [hcount, cut?_length_scalar (.primitive type)]
  rfl

end Column

namespace FixedSizeListBuilder

variable {type : Primitive} {n : Nat}

/-- Slot `slot` of a row lies that far behind where the row starts. -/
theorem getElem?_flatMap_slotsOf (rows : List (Option (Vector type.Native n))) {row slot : Nat}
    (hrow : row < rows.length) (hslot : slot < n) :
    (rows.flatMap slotsOf)[row * n + slot]? = some ((rows[row].map (·[slot])).getD type.zero) := by
  have hwindow := Column.window_flatMap length_slotsOf rows hrow
  rw [← getElem?_slotsOf rows[row] hslot, ← hwindow, List.getElem?_take_of_lt hslot,
    List.getElem?_drop]

/-- A builder with room for its rows holds none yet. -/
theorem eq_holding_of_withCapacity? {capacity : Nat} {b : FixedSizeListBuilder type n}
    (h : withCapacity? capacity = some b) : b = holding [] := by
  obtain ⟨room, -, rfl⟩ := Option.map_eq_some_iff.mp h
  rfl

end FixedSizeListBuilder

end SpatialColumns
