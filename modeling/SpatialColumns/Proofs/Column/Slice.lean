import SpatialColumns.Column.FixedSizeList
import SpatialColumns.Proofs.Column.FixedSizeList
import SpatialColumns.Proofs.Column.Validity

/-!
# Slices of rows

A slice of a column whose parts fit together is there as soon as its rows are. What
is read row by row is read off a slice as well: row `i` of it has the validity bit,
the items and the slots that row `offset + i` had.
-/

namespace SpatialColumns.Column

variable {α β : Type} {offset count : Nat}

/-! ## Windows -/

@[simp] theorem length_window (items : List α) :
    (window offset count items).length = min count (items.length - offset) := by
  simp [window]

theorem getElem?_window {items : List α} {i : Nat} (hi : i < count) :
    (window offset count items)[i]? = items[offset + i]? := by
  simp [window, hi]

theorem map_window (f : α → β) (items : List α) :
    (window offset count items).map f = window offset count (items.map f) := by
  simp [window, List.map_take, List.map_drop]

/-- Lists that run in parallel have parallel windows. -/
theorem zip_window (as : List α) (bs : List β) :
    (window offset count as).zip (window offset count bs) = window offset count (as.zip bs) := by
  simp only [window, List.zip_eq_zipWith, List.take_zipWith, List.drop_zipWith]

/-- A window of the items is read as the window of what they are read as. -/
theorem mapM_window {ε : Type} {f : α → Except ε β} {items : List α} {results : List β}
    (h : items.mapM f = .ok results) :
    (window offset count items).mapM f = .ok (window offset count results) := by
  obtain ⟨hlength, hrow⟩ := mapM_eq_ok_iff.mp h
  apply mapM_eq_ok
  · rw [length_window, length_window, hlength]
  · intro i hi hr
    simp only [length_window, Nat.lt_min] at hi hr
    simpa [window] using hrow (offset + i) (by omega) (by omega)

theorem itemAt_window {items : List α} {row : Nat} {item : α} (hrow : row < count)
    (h : itemAt items.toArray (offset + row) = .ok item) :
    itemAt (window offset count items).toArray row = .ok item := by
  rw [itemAt_eq_ok_iff, List.getElem?_toArray] at h ⊢
  rwa [getElem?_window hrow]

/-- A row of slots that ends inside a window is found there. -/
theorem readRow_window {slots : List α} {n start : Nat} {row : Vector α n}
    (hend : start + n ≤ count) (h : readRow slots.toArray n (offset + start) = .ok row) :
    readRow (window offset count slots).toArray n start = .ok row := by
  have hslots : (window offset count slots).toArray.extract start (start + n) =
      slots.toArray.extract (offset + start) (offset + start + n) := by
    apply Array.toList_inj.mp
    have hwidth : min n (count - start) = n := by omega
    simp only [List.extract_toArray, List.extract_eq_take_drop, window, List.drop_take,
      List.drop_drop, List.take_take, Nat.add_sub_cancel_left, hwidth]
  simp only [readRow, hslots] at h ⊢
  split at h
  next hsize =>
    rw [dif_pos hsize]
    exact h
  next => cases h

/-! ## Rows -/

/-- The validity bit of a row, if there is one. -/
def bit? (validity : Option (List Bool)) (row : Nat) : Option Bool :=
  match validity with
  | none => some true
  | some bits => bits[row]?

theorem bit?_window {validity : Option (List Bool)} {row : Nat} (hrow : row < count) :
    bit? (validity.map (window offset count)) row = bit? validity (offset + row) := by
  cases validity with
  | none => rfl
  | some bits => exact getElem?_window hrow

theorem isPresent_of_bit? {validity : Option (List Bool)} {row : Nat} {present : Bool}
    (h : bit? validity row = some present) : isPresent validity row = present := by
  cases validity with
  | none => exact Option.some.inj h
  | some bits =>
      have hbit : bits[row]? = some present := h
      simp [isPresent, hbit]

variable {length : Nat} {validity : Option (List Bool)} {read : Bool → Nat → Except DecodeError α}

/-- Rows are read exactly if each of them has a bit and is read with it. -/
theorem readRows_eq_ok_iff {values : List α} :
    readRows length validity read = .ok values ↔ values.length = length ∧
      ∀ row, (hrow : row < values.length) →
        ∃ present, bit? validity row = some present ∧ read present row = .ok values[row] := by
  have hstep (step : Nat → Except DecodeError α) : readFrom step length 0 #[] = .ok values ↔
      values.length = length ∧
        ∀ row, (hrow : row < values.length) → step row = .ok values[row] := by
    rw [readFrom_zero, mapM_eq_ok_iff]
    simp only [List.length_range', List.getElem_range', Nat.one_mul, Nat.zero_add]
    grind
  cases validity with
  | none =>
      rw [readRows, hstep]
      simp [bit?]
  | some bits =>
      rw [readRows, hstep]
      refine and_congr_right fun _ => forall₂_congr fun row _ => ?_
      cases hbit : bits[row]? with
      | none => simp [itemAt, bit?, hbit, bind, Except.bind]
      | some present => simp [itemAt, bit?, hbit, bind, Except.bind]

/-- The rows of a slice are read as a window of all rows, if each is read where it was. -/
theorem readRows_window {read' : Bool → Nat → Except DecodeError α} {values : List α}
    (hread : readRows length validity read = .ok values) (hend : offset + count ≤ values.length)
    (hrow : ∀ present row value, row < count → bit? validity (offset + row) = some present →
      read present (offset + row) = .ok value → read' present row = .ok value) :
    readRows count (validity.map (window offset count)) read' =
      .ok (window offset count values) := by
  obtain ⟨-, hrows⟩ := readRows_eq_ok_iff.mp hread
  refine readRows_eq_ok_iff.mpr ⟨?_, fun row hlt => ?_⟩
  · rw [length_window]
    omega
  · have hcount : row < count := by
      rw [length_window] at hlt
      omega
    obtain ⟨present, hbit, hvalue⟩ := hrows (offset + row) (by omega)
    refine ⟨present, ?_, ?_⟩
    · rwa [bit?_window hcount]
    · apply hrow present row _ hcount hbit
      simpa [window] using hvalue

/-- A row of a slice starts as many slots earlier as the rows take up that the slice leaves out. -/
theorem listRow_window {slots : List α} {n : Nat} {size : Int32} (hsize : rowSize size = n)
    {present : Bool} {row : Nat} {value : Option (Vector α n)} (hrow : row < count)
    (hstart : present = true → (offset + row) * n ≤ lastStart)
    (h : listRow slots.toArray n size present (offset + row) = .ok value) :
    listRow (window (offset * n) (count * n) slots).toArray n size present row = .ok value := by
  subst hsize
  cases present with
  | false => exact h
  | true =>
      have hstart := hstart rfl
      have hearlier : row * rowSize size ≤ lastStart :=
        Nat.le_trans (Nat.mul_le_mul_right _ (Nat.le_add_left row offset)) hstart
      have hend : row * rowSize size + rowSize size ≤ count * rowSize size := by
        rw [← Nat.succ_mul]
        exact Nat.mul_le_mul_right _ hrow
      rw [listRow_present hstart, Nat.add_mul] at h
      rw [listRow_present hearlier]
      cases hfound : readRow slots.toArray (rowSize size)
          (offset * rowSize size + row * rowSize size) with
      | error e =>
          rw [hfound] at h
          cases h
      | ok found =>
          rw [hfound] at h
          rwa [readRow_window hend hfound]

/-- Sliced off, the row behind any number of absent ones is read off its own slots. -/
theorem fixedSizeListRows_slice_last (type : Primitive) {n : Nat} (hn : n < 2 ^ 31) {absent : Nat}
    (hpos : 0 < absent) (last : Vector type.Native n) :
    fixedSizeListRows type n (.listOf type n)
        ((FixedSizeListBuilder.column type (List.replicate absent none ++ [some last])).slice
          absent 1) = .ok [some last] := by
  let rows : List (Option (Vector type.Native n)) := List.replicate absent none ++ [some last]
  have hrow : absent < rows.length := by simp [rows]
  have hvalidity : (validityOf rows).map (window absent 1) = some [true] := by
    simp [rows, validityOf, window, hpos.ne']
  have hslots : window (absent * n) (1 * n) (rows.flatMap FixedSizeListBuilder.slotsOf) =
      last.toList := by
    rw [Nat.one_mul, window, window_flatMap FixedSizeListBuilder.length_slotsOf rows hrow]
    simp [rows, FixedSizeListBuilder.slotsOf]
  have hraw : (last.toList.map Slot.value).map Slot.raw = last.toList := by
    simp [Function.comp_def]
  have hread : listRow last.toList.toArray n (Int32.ofNat n) true 0 = .ok (some last) := by
    have hfirst := readRow_flatMap [some last] Nat.one_pos
    rw [listRow_present (by simp), Nat.zero_mul]
    simpa [FixedSizeListBuilder.slotsOf, Except.map] using congrArg (Except.map some) hfirst
  rw [FixedSizeListBuilder.column, slice, slice, rowSize_ofNat hn, hvalidity, ← map_window, hslots,
    fixedSizeListRows_eq, hraw, readRows_eq (by simp)]
  simp [presence, hread, bind, Except.bind, pure, Except.pure]

/-! ## Columns with enough rows -/

theorem bitsReach_of_fit (hbits : BitsFit length validity) (hend : offset + count ≤ length) :
    bitsReach offset count validity = true := by
  cases validity with
  | none => rfl
  | some bits =>
      rw [← hbits bits rfl] at hend
      exact Size.reaches_of_le hend

/-- Where there are slots for all rows, those of the rows of a slice are among them. -/
theorem slots_le_of_rows_le {size slots : Nat} (hend : offset + count ≤ length)
    (hslots : length * size ≤ slots) : offset * size + count * size ≤ slots := by
  calc
    offset * size + count * size = (offset + count) * size := (Nat.add_mul _ _ _).symm
    _ ≤ length * size := Nat.mul_le_mul_right _ hend
    _ ≤ slots := hslots

mutual

/-- A column whose parts fit together has every slice that ends within its rows. -/
theorem sliceable_of_aligned {offset count : Nat} (c : Column) (h : c.Throughout Aligned)
    (hend : offset + count ≤ c.length) : c.sliceable offset count = true := by
  match c with
  | null n =>
      exact Size.reaches_of_le hend
  | scalar kind slots =>
      exact Size.reaches_of_le hend
  | fixedSizeList item size n validity child =>
      have hend : offset + count ≤ n := hend
      obtain ⟨-, hchild, hbits⟩ := h.self
      have hslots := slots_le_of_rows_le hend hchild
      have hpart := sliceable_of_aligned child (h.part List.mem_cons_self) hslots
      rw [sliceable, Size.reaches_of_le hend, bitsReach_of_fit hbits hend, hpart]
      rfl
  | list item offsets validity child =>
      have hend : offset + count ≤ offsets.length - 1 := hend
      obtain ⟨-, -, -, hbits⟩ := h.self
      rw [sliceable, Size.reaches_of_le hend, bitsReach_of_fit hbits hend]
      rfl
  | struct fields n validity children =>
      have hend : offset + count ≤ n := hend
      obtain ⟨-, hlengths, hbits⟩ := h.self
      have hparts := sliceableAll_of_aligned children fun child hchild =>
        ⟨h.part hchild, hlengths child hchild ▸ hend⟩
      rw [sliceable, Size.reaches_of_le hend, bitsReach_of_fit hbits hend, hparts]
      rfl
  | union arms .dense typeIds offsets children =>
      have hend : offset + count ≤ typeIds.length := hend
      obtain ⟨-, hoffsets⟩ : _ ∧ offsets.length = typeIds.length := h.self
      rw [sliceable, hoffsets, Nat.min_self]
      exact Size.reaches_of_le hend
  | union arms .sparse typeIds offsets children =>
      have hend : offset + count ≤ typeIds.length := hend
      obtain ⟨-, hlengths⟩ : _ ∧ ∀ child ∈ children, child.length = typeIds.length := h.self
      have hparts := sliceableAll_of_aligned children fun child hchild =>
        ⟨h.part hchild, hlengths child hchild ▸ hend⟩
      rw [sliceable, Size.reaches_of_le hend, hparts]
      rfl
  termination_by structural c

theorem sliceableAll_of_aligned {offset count : Nat} (cs : List Column)
    (h : ∀ c ∈ cs, c.Throughout Aligned ∧ offset + count ≤ c.length) :
    sliceableAll offset count cs = true := by
  match cs with
  | [] => rfl
  | c :: cs =>
      obtain ⟨hc, hcs⟩ := List.forall_mem_cons.mp h
      rw [sliceableAll, sliceable_of_aligned c hc.1 hc.2, sliceableAll_of_aligned cs hcs]
      rfl
  termination_by structural cs

end

/-! ## Slices whose parts fit together -/

/-- A slice within the rows has as many rows as asked for. -/
theorem length_slice {c : Column} (hend : offset + count ≤ c.length) :
    (c.slice offset count).length = count := by
  cases c with
  | union arms mode typeIds offsets children =>
      cases mode <;> simp only [length, slice, length_window] at hend ⊢ <;> omega
  | scalar kind slots =>
      simp only [length, slice, length_window] at hend ⊢
      omega
  | list item offsets validity child =>
      simp only [length, slice, length_window] at hend ⊢
      omega
  | _ => rfl

theorem lengths_sliceAll {children : List Column}
    (hrows : ∀ child ∈ children, offset + count ≤ child.length) :
    ∀ part ∈ sliceAll offset count children, part.length = count := by
  intro part hpart
  rw [sliceAll_eq_map] at hpart
  obtain ⟨child, hchild, rfl⟩ := List.mem_map.mp hpart
  exact length_slice (hrows child hchild)

theorem datatypes_sliceAll (children : List Column) :
    (sliceAll offset count children).map datatype = children.map datatype := by
  rw [sliceAll_eq_map, List.map_map]
  exact List.map_congr_left fun child _ => datatype_slice offset count child

theorem bitsFit_window (hbits : BitsFit length validity) (hend : offset + count ≤ length) :
    BitsFit count (validity.map (window offset count)) := by
  intro bits h
  obtain ⟨all, hall, rfl⟩ := Option.map_eq_some_iff.mp h
  rw [length_window, hbits all hall]
  omega

/-- A row of a slice is present if it was so before, and starts no later. -/
theorem addressable_slice {item : Field} {size : Int32} {child : Column}
    (h : (fixedSizeList item size length validity child).Addressable)
    (hend : offset + count ≤ length) :
    ((fixedSizeList item size length validity child).slice offset count).Addressable := by
  intro row hrow hpresent
  have hwhole : isPresent validity (offset + row) = true := by
    cases validity with
    | none => rfl
    | some bits =>
        simpa [isPresent, List.getD_eq_getElem?_getD, getElem?_window hrow] using hpresent
  calc
    row * rowSize size ≤ (offset + row) * rowSize size :=
      Nat.mul_le_mul_right _ (Nat.le_add_left row offset)
    _ ≤ lastStart := h (offset + row) (by omega) hwhole

mutual

/-- The parts of a slice fit together as those of the whole column do, and start in time. -/
theorem readable_slice {offset count : Nat} (c : Column) (h : c.Throughout Readable)
    (hend : offset + count ≤ c.length) : (c.slice offset count).Throughout Readable := by
  match c with
  | null n => exact Throughout.iff_self_parts.mpr ⟨⟨trivial, trivial⟩, nofun⟩
  | scalar kind slots => exact Throughout.iff_self_parts.mpr ⟨⟨trivial, trivial⟩, nofun⟩
  | fixedSizeList item size n validity child =>
      have hend : offset + count ≤ n := hend
      obtain ⟨htype, hchild, hbits⟩ := h.self.aligned
      have haddressable := addressable_slice h.self.addressable hend
      have hslots := slots_le_of_rows_le hend hchild
      have hpart := readable_slice child (h.part List.mem_cons_self) hslots
      rw [slice] at haddressable ⊢
      refine Throughout.iff_self_parts.mpr
        ⟨⟨⟨?_, ?_, bitsFit_window hbits hend⟩, haddressable⟩, ?_⟩
      · rwa [datatype_slice]
      · rw [length_slice hslots]
      · simpa [parts] using hpart
  | list item offsets validity child =>
      have hend : offset + count ≤ offsets.length - 1 := hend
      obtain ⟨htype, hsorted, hchild, hbits⟩ := h.self.aligned
      -- The items stay whole, so the offsets that are left still end within them.
      have hsublist : (window offset (count + 1) offsets).Sublist offsets :=
        (List.take_sublist _ _).trans (List.drop_sublist _ _)
      have hrows : (window offset (count + 1) offsets).length - 1 = count := by
        rw [length_window]
        omega
      rw [slice]
      refine Throughout.iff_self_parts.mpr ⟨⟨⟨htype, hsorted.sublist hsublist,
        fun slot hslot => hchild slot (hsublist.mem hslot), ?_⟩, trivial⟩, ?_⟩
      · rw [hrows]
        exact bitsFit_window hbits hend
      · exact fun part hpart => h.part hpart
  | struct fields n validity children =>
      have hend : offset + count ≤ n := hend
      obtain ⟨htypes, hlengths, hbits⟩ := h.self.aligned
      have hrows : ∀ child ∈ children, offset + count ≤ child.length :=
        fun child hchild => hlengths child hchild ▸ hend
      have hparts := readable_sliceAll children fun child hchild =>
        ⟨h.part hchild, hrows child hchild⟩
      rw [slice]
      refine Throughout.iff_self_parts.mpr
        ⟨⟨⟨?_, lengths_sliceAll hrows, bitsFit_window hbits hend⟩, trivial⟩, hparts⟩
      rwa [datatypes_sliceAll]
  | union arms .dense typeIds offsets children =>
      obtain ⟨htypes, hoffsets⟩ : _ ∧ offsets.length = typeIds.length := h.self.aligned
      rw [slice]
      -- The arms stay whole, so only the number of entries is at stake.
      refine Throughout.iff_self_parts.mpr
        ⟨⟨⟨htypes, ?_⟩, trivial⟩, fun part hpart => h.part hpart⟩
      simp only [length_window, hoffsets]
  | union arms .sparse typeIds offsets children =>
      have hend : offset + count ≤ typeIds.length := hend
      obtain ⟨htypes, hlengths⟩ : _ ∧ ∀ child ∈ children, child.length = typeIds.length :=
        h.self.aligned
      have hrows : ∀ child ∈ children, offset + count ≤ child.length :=
        fun child hchild => hlengths child hchild ▸ hend
      have hparts := readable_sliceAll children fun child hchild =>
        ⟨h.part hchild, hrows child hchild⟩
      have hcount : (window offset count typeIds).length = count := by
        rw [length_window]
        omega
      rw [slice]
      refine Throughout.iff_self_parts.mpr ⟨⟨⟨?_, ?_⟩, trivial⟩, hparts⟩
      · rwa [datatypes_sliceAll]
      · rw [hcount]
        exact lengths_sliceAll hrows
  termination_by structural c

theorem readable_sliceAll {offset count : Nat} (cs : List Column)
    (h : ∀ c ∈ cs, c.Throughout Readable ∧ offset + count ≤ c.length) :
    ∀ part ∈ sliceAll offset count cs, part.Throughout Readable := by
  match cs with
  | [] => exact nofun
  | c :: cs =>
      obtain ⟨hc, hcs⟩ := List.forall_mem_cons.mp h
      rw [sliceAll]
      exact List.forall_mem_cons.mpr ⟨readable_slice c hc.1 hc.2, readable_sliceAll cs hcs⟩
  termination_by structural cs

end

end SpatialColumns.Column
