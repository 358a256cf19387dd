import SpatialColumns.Proofs.Column.FixedSizeList
import SpatialColumns.Proofs.Reading.Cell
import SpatialColumns.Quaternion
import SpatialColumns.Uuid
import SpatialColumns.Vec3D

/-!
# Faithful codecs, and those of vectors

A codec is faithful to a reader if it decodes nothing but what the reader reads in
each row, null slots taken for what lies there, if it fails for no other reason than a
null as long as entries of unions point at slots, and if it decodes every valid column
to what the reader insists on. All this is said of columns that are addressable. A vector
codec is faithful, and fails on no such column whose parts fit together.
-/

namespace SpatialColumns

variable {α β : Type}

namespace Codec

variable {c : Codec α} {column : Column} {values : List (Option α)} {e : DecodeError}

/-- A codec that decodes what a reader reads. -/
structure Faithful (c : Codec α) (read : Bool → Cell → Option (Option α)) : Prop where
  reads {column : Column} {values : List (Option α)} (hreadable : column.Throughout Column.Readable)
    (htype : column.datatype = c.datatype) (hdecode : c.decode column = .ok values) :
    column.Reads (read true) values
  missing {column : Column} {e : DecodeError} (hreadable : column.Throughout Column.Readable)
    (hpointed : column.Throughout Column.Pointed) (htype : column.datatype = c.datatype)
    (hdecode : c.decode column = .error e) : e.IsMissing
  decodes {column : Column} (hvalid : column.Valid)
    (haddressable : column.Throughout Column.Addressable) (htype : column.datatype = c.datatype) :
    ∃ values, c.decode column = .ok values ∧ column.Reads (read false) values
  strict {cell : Cell} {value : Option α} (hread : read false cell = some value) :
    read true cell = some value
  absent {fill : Bool} {cell : Cell} {value : Option α} (hread : read fill cell = some value) :
    value = none ↔ cell.isAbsent = true

/-- Nothing that is null is read as a value. -/
theorem Faithful.isNull_of_some {read : Bool → Cell → Option (Option α)} {fill : Bool}
    {cell : Cell} {value : α} (h : c.Faithful read) (hread : read fill cell = some (some value)) :
    cell.isNull = false := by
  have habsent : cell.isAbsent = false := by
    simpa using (h.absent hread).not.mp (Option.some_ne_none value)
  cases cell <;> simp_all [Cell.isNull, Cell.isAbsent]

/-- In a column that is read and is no union, nothing but a null is read as absent. -/
theorem Faithful.legible {read : Bool → Cell → Option (Option α)} {fill : Bool}
    (h : c.Faithful read) (hreads : column.Reads (read fill) values)
    (htype : column.datatype = c.datatype) (hunion : ∀ arms mode, c.datatype ≠ .union arms mode) :
    column.Legible (read fill) := by
  intro row hrow hnull
  obtain ⟨value, -, hvalue⟩ := hreads.itemAt hrow
  cases value with
  | none =>
      have habsent := (h.absent hvalue).mp rfl
      rw [Column.isAbsent_cell (by rwa [htype]), hnull] at habsent
      cases habsent
  | some value => exact ⟨value, hvalue⟩

/-- A column that does not decode because one of its parts does not. -/
inductive FailsInPart (c : Codec α) (column : Column) : Prop where
  | intro {β : Type} {d : Codec β} {read : Bool → Cell → Option (Option β)} {part : Column}
    {e : DecodeError} {location : String} (hpart : part ∈ column.parts)
    (hfaithful : d.Faithful read) (htype : part.datatype = d.datatype)
    (hdecode : d.decode part = .error e) (hfails : c.decode column = .error (.context location e))

/-- A codec is faithful if it decodes what is read as long as it decodes the parts, and if the
stricter reader makes sense of each row of a valid column. -/
theorem Faithful.of_parts {read : Bool → Cell → Option (Option α)}
    (hcases : ∀ {column : Column}, column.Throughout Column.Readable →
      column.datatype = c.datatype →
      column.DecodesTo column.Pointed (read true) (c.decode column) ∨ c.FailsInPart column)
    (hsome : ∀ {column : Column}, column.Valid → column.Throughout Column.Addressable →
      column.datatype = c.datatype →
      ∀ {row : Nat}, row < column.length → (read false (column.cell row)).isSome = true)
    (hstrict : ∀ {cell : Cell} {value : Option α}, read false cell = some value →
      read true cell = some value)
    (habsent : ∀ {fill : Bool} {cell : Cell} {value : Option α}, read fill cell = some value →
      (value = none ↔ cell.isAbsent = true)) :
    c.Faithful read where
  reads {column values} hreadable htype hdecode := by
    rcases hcases hreadable htype with hdecodes | ⟨_, _, _, _, hfails⟩
    · exact hdecodes.ok_iff.mp hdecode
    · rw [hdecode] at hfails
      cases hfails
  missing {column e} hreadable hpointed htype hdecode := by
    rcases hcases hreadable htype with hdecodes | ⟨hpart, hfaithful, hpartType, hinner, hfails⟩
    · exact hdecodes.isMissing hpointed.self hdecode
    · rw [hdecode] at hfails
      cases hfails
      exact DecodeError.isMissing_context.mpr
        (hfaithful.missing (hreadable.part hpart) (hpointed.part hpart) hpartType hinner)
  decodes {column} hvalid haddressable htype := by
    have hreadable := hvalid.aligned.readable haddressable
    rcases hcases hreadable htype with hdecodes | ⟨hpart, hfaithful, hpartType, hinner, -⟩
    · exact hdecodes.exists_ok (fun _ _ => hstrict) fun _ hrow =>
        hsome hvalid haddressable htype hrow
    · obtain ⟨_, hvalues, -⟩ := hfaithful.decodes (hvalid.part hpart) (haddressable.part hpart)
        hpartType
      rw [hinner] at hvalues
      cases hvalues
  strict := hstrict
  absent := habsent

/-- A codec that wraps another one's values is faithful if the other one is. -/
theorem Faithful.component {read : Bool → Cell → Option (Option α)} (h : c.Faithful read)
    {name : String} {wrap : α → β} {unwrap : β → α} :
    (c.component name wrap unwrap).Faithful fun fill cell =>
      (read fill cell).map (Option.map wrap) where
  reads {column values} hreadable htype hdecode := by
    obtain ⟨inner, hinner, rfl⟩ := decode_component_eq_ok_iff.mp hdecode
    have hreads := h.reads hreadable htype hinner
    refine ⟨by rw [List.length_map, hreads.length], fun row hrow => ?_⟩
    rw [hreads.row row (by simpa using hrow), List.getElem_map]
    rfl
  missing {column e} hreadable hpointed htype hdecode := by
    obtain ⟨inner, hinner, rfl⟩ := decode_component_eq_error_iff.mp hdecode
    exact DecodeError.isMissing_context.mpr (h.missing hreadable hpointed htype hinner)
  decodes {column} hvalid haddressable htype := by
    obtain ⟨inner, hinner, hreads⟩ := h.decodes hvalid haddressable htype
    refine ⟨inner.map (Option.map wrap), decode_component_of_ok hinner, ?_, fun row hrow => ?_⟩
    · rw [List.length_map, hreads.length]
    · rw [hreads.row row (by simpa using hrow), List.getElem_map]
      rfl
  strict {cell value} hread := by
    obtain ⟨inner, hinner, rfl⟩ := Option.map_eq_some_iff.mp hread
    rw [h.strict hinner]
    rfl
  absent {fill cell value} hread := by
    obtain ⟨inner, hinner, rfl⟩ := Option.map_eq_some_iff.mp hread
    rw [Option.map_eq_none_iff]
    exact h.absent hinner

end Codec

/-! ## Vectors -/

namespace Column

variable {type : Primitive} {n : Nat} {slots : List (Slot type.Native)}

/-- A row is read as the cells of its slots are. -/
theorem exists_readRow {start : Nat} (hslots : start + n ≤ slots.length) :
    ∃ vector, readRow (slots.map Slot.raw).toArray n start = .ok vector ∧
      (Cell.list ((List.range n).map fun k =>
        (scalar (.primitive type) slots).cell (start + k))).vector? true type n =
          some (some vector) := by
  have hlength : (window start n slots).length = n := by
    simp only [window, List.length_take, List.length_drop]
    omega
  have hcells : ((List.range n).map fun k => (scalar (.primitive type) slots).cell (start + k)) =
      (window start n slots).map (Cell.ofSlot (.primitive type)) := by
    apply List.ext_getElem
    · simp [hlength]
    · intro k hk _
      have hslot : start + k < slots.length := by
        simp at hk
        omega
      have hcell : (scalar (.primitive type) slots).cell (start + k) =
          .ofSlot (.primitive type) slots[start + k] := cell_scalar hslot
      simp [window, hcell]
  have hrow : (slots.map Slot.raw).toArray.extract start (start + n) =
      ((window start n slots).map Slot.raw).toArray := by
    apply Array.toList_inj.mp
    simp [List.extract_eq_take_drop, window, List.map_take, List.map_drop]
  have hsize : ((window start n slots).map Slot.raw).toArray.size = n := by simp [hlength]
  refine ⟨⟨((window start n slots).map Slot.raw).toArray, hsize⟩, ?_, ?_⟩
  · simp only [readRow, hrow]
    rw [dif_pos hsize]
  · have hitems : ((window start n slots).map (Cell.ofSlot (.primitive type))).mapM
        (Cell.scalar? true (.primitive type)) = some ((window start n slots).map Slot.raw) := by
      rw [List.mapM_map]
      exact Cell.mapM_eq_some_map fun slot _ => Cell.scalar?_ofSlot slot
    simp only [hcells, Cell.vector?, hitems, Option.bind_some, Cell.toVector?]
    rw [dif_pos hsize]
    rfl

/-- A list column that is readable is read, and as its cells are. -/
theorem exists_fixedSizeListRows {c : Column} (hn : n < 2 ^ 31)
    (hreadable : c.Throughout Readable) (htype : c.datatype = .listOf type n) :
    ∃ rows, c.fixedSizeListRows type n (.listOf type n) = .ok rows ∧
      c.Reads (Cell.vector? true type n) rows := by
  obtain ⟨length, validity, slots, rfl, hslots, hbits⟩ :=
    eq_list_of_datatype hreadable.aligned htype
  have haddressable := hreadable.self.addressable
  rw [rowSize_ofNat hn] at hslots
  rw [fixedSizeListRows_eq, readRows_eq_mapM hbits]
  let c := fixedSizeList (.required "item" (.scalar (.primitive type))) (Int32.ofNat n) length
    validity (scalar (.primitive type) slots)
  refine exists_mapM_range (c := c) fun row (hrow : row < length) => ?_
  simp only [c, cell_fixedSizeList]
  by_cases hpresent : isPresent validity row = true
  · have hstart := haddressable row hrow hpresent
    have hend : row * n + n ≤ slots.length := by
      calc
        row * n + n = (row + 1) * n := (Nat.succ_mul row n).symm
        _ ≤ length * n := Nat.mul_le_mul_right n hrow
        _ ≤ slots.length := hslots
    obtain ⟨vector, hread, hcell⟩ := exists_readRow hend
    rw [hpresent, listRow_present hstart, rowSize_ofNat hn, hread]
    exact ⟨some vector, rfl, hcell⟩
  · exact ⟨none, by simp [hpresent], by simp [hpresent, Cell.vector?]⟩

/-- Where no required item is null, it does not matter what a reader makes of nulls. -/
theorem vector?_cell {c : Column} {fill : Bool} (haligned : c.Throughout Aligned)
    (hcomplete : c.Complete) (htype : c.datatype = .listOf type n) {row : Nat}
    (hrow : row < c.length) :
    (c.cell row).vector? fill type n = (c.cell row).vector? false type n := by
  obtain ⟨length, validity, slots, rfl, -, -⟩ := eq_list_of_datatype haligned htype
  rw [cell_fixedSizeList]
  by_cases hpresent : isPresent validity row = true
  · rw [if_pos hpresent]
    refine Cell.vector?_list_congr fun item hitem => ?_
    obtain ⟨k, hk, rfl⟩ := List.mem_map.mp hitem
    exact Cell.scalar?_of_isNull_eq_false
      (hcomplete rfl row hrow hpresent k (List.mem_range.mp hk))
  · simp [hpresent, Cell.vector?]

end Column

/-- The vector that a cell holds, as what the codec makes of it. -/
def Cell.vectorAs? (type : Primitive) (n : Nat) (ofVector : Vector type.Native n → α) (fill : Bool)
    (cell : Cell) : Option (Option α) :=
  (cell.vector? fill type n).map (Option.map ofVector)

namespace Codec

variable {type : Primitive} {n builderSize elementSize : Nat} {name : String}
  {toVector : α → Vector type.Native n} {ofVector : Vector type.Native n → α}

/-- A readable column of vectors always decodes. -/
theorem exists_decode_vector {column : Column} (hn : n < 2 ^ 31)
    (hreadable : column.Throughout Column.Readable) (htype : column.datatype = .listOf type n) :
    ∃ values, (vector name type n builderSize elementSize toVector ofVector).decode column =
      .ok values ∧ column.Reads (Cell.vectorAs? type n ofVector true) values := by
  obtain ⟨rows, hrows, hreads⟩ := Column.exists_fixedSizeListRows hn hreadable htype
  refine ⟨rows.map (Option.map ofVector), ?_, ?_, fun row hrow => ?_⟩
  · simp [vector, hrows, bind, Except.bind, pure, Except.pure]
  · rw [List.length_map, hreads.length]
  · rw [Cell.vectorAs?, hreads.row row (by simpa using hrow), List.getElem_map]
    rfl

theorem faithful_vector (hn : n < 2 ^ 31) :
    (vector name type n builderSize elementSize toVector ofVector).Faithful
      (Cell.vectorAs? type n ofVector) where
  reads {column values} hreadable htype hdecode := by
    obtain ⟨others, hothers, hreads⟩ := exists_decode_vector (α := α) hn hreadable htype
    rw [hdecode, Except.ok.injEq] at hothers
    exact hothers ▸ hreads
  missing {column e} hreadable _ htype hdecode := by
    obtain ⟨values, hvalues, -⟩ := exists_decode_vector (α := α) hn hreadable htype
    rw [hdecode] at hvalues
    cases hvalues
  decodes {column} hvalid haddressable htype := by
    obtain ⟨values, hvalues, hreads⟩ :=
      exists_decode_vector hn (hvalid.aligned.readable haddressable) htype
    refine ⟨values, hvalues, hreads.length, fun row hrow => ?_⟩
    rw [Cell.vectorAs?, ← Column.vector?_cell hvalid.aligned hvalid.complete.self htype
      (Nat.lt_of_lt_of_eq hrow hreads.length)]
    exact hreads.row row hrow
  strict {cell value} hread := by
    obtain ⟨row, hrow, rfl⟩ := Option.map_eq_some_iff.mp hread
    rw [Cell.vectorAs?, Cell.vector?_of_strict hrow]
    rfl
  absent {fill cell value} hread := by
    obtain ⟨row, hrow, rfl⟩ := Option.map_eq_some_iff.mp hread
    rw [Option.map_eq_none_iff]
    exact Cell.vector?_absent hrow

end Codec

/-- The vector that a cell holds. -/
def Vec3D.ofCell? : Bool → Cell → Option (Option Vec3D) := Cell.vectorAs? .float32 3 Vec3D.ofVector

theorem Vec3D.faithful : Vec3D.codec.Faithful Vec3D.ofCell? :=
  Codec.faithful_vector (by decide)

/-- The quaternion that a cell holds. -/
def Quaternion.ofCell? : Bool → Cell → Option (Option Quaternion) :=
  Cell.vectorAs? .float32 4 Quaternion.ofVector

theorem Quaternion.faithful : Quaternion.codec.Faithful Quaternion.ofCell? :=
  Codec.faithful_vector (by decide)

/-- The identifier that a cell holds. -/
def Uuid.ofCell? : Bool → Cell → Option (Option Uuid) := Cell.vectorAs? .uint8 16 Uuid.mk

theorem Uuid.faithful : Uuid.codec.Faithful Uuid.ofCell? :=
  Codec.faithful_vector (by decide)

end SpatialColumns
