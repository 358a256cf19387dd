import SpatialColumns.Proofs.Column.Rows
import SpatialColumns.Proofs.Column.Validity

/-!
# Values read off cells

A reader takes a cell for a value, or for an absent one, or finds that it is
neither. Where a scalar is required, a reader either insists on it or takes the bits
of a null slot for it, and is told which.
-/

namespace SpatialColumns

variable {α β γ : Type}

namespace Cell

/-- The scalar that a cell holds. If `fill` is set, a null slot is read as what lies there. -/
def scalar? (fill : Bool) (kind : Scalar) : Cell → Option kind.Value
  | hole other raw => if h : other = kind then if fill then some (h ▸ raw) else none else none
  | scalar other value => if h : other = kind then some (h ▸ value) else none
  | _ => none

/-- The scalar that a cell holds, unless it is null. -/
def optional? (kind : Scalar) : Cell → Option (Option kind.Value)
  | hole other _ => if other = kind then some none else none
  | cell => (cell.scalar? false kind).map some

/-- A list of `n` values as a vector. -/
def toVector? (n : Nat) (values : List α) : Option (Vector α n) :=
  if h : values.toArray.size = n then some ⟨values.toArray, h⟩ else none

/-- The scalars of a list that has `n` of them, unless it is null. -/
def vector? (fill : Bool) (type : Primitive) (n : Nat) :
    Cell → Option (Option (Vector type.Native n))
  | null => some none
  | list items => ((items.mapM (scalar? fill (.primitive type))).bind (toVector? n)).map some
  | _ => none

/-- The value of what an entry of a union points at, which has to be one. -/
def target? (read : Cell → Option (Option α)) (target : Option Cell) : Option α :=
  target.bind fun cell => (read cell).join

/-- The value of an entry of a union with two arms after the null markers. -/
def unionPair? (wrapFirst : α → γ) (wrapSecond : β → γ) (readFirst : Cell → Option (Option α))
    (readSecond : Cell → Option (Option β)) : Cell → Option (Option γ)
  | entry typeId _ target =>
    if typeId = DenseUnion.nullMarkersTypeId then some none
    else if typeId = 1 then (target? readFirst target).map (some ∘ wrapFirst)
    else if typeId = 2 then (target? readSecond target).map (some ∘ wrapSecond)
    else none
  | _ => none

/-- Whatever one reader of items reads, another one reads as well. -/
theorem mapM_of_imp {f g : α → Option β} (h : ∀ a b, f a = some b → g a = some b) {items : List α}
    {values : List β} (hitems : items.mapM f = some values) : items.mapM g = some values := by
  induction items generalizing values with
  | nil => exact hitems
  | cons item items ih =>
      simp only [List.mapM_cons, Option.bind_eq_bind, Option.bind_eq_some_iff] at hitems ⊢
      obtain ⟨value, hvalue, rest, hrest, hvalues⟩ := hitems
      exact ⟨value, h item value hvalue, rest, ih hrest, hvalues⟩

theorem mapM_eq_some_map {f : α → Option β} {g : α → β} {items : List α}
    (h : ∀ item ∈ items, f item = some (g item)) : items.mapM f = some (items.map g) := by
  induction items with
  | nil => rfl
  | cons item items ih =>
      obtain ⟨hitem, hrest⟩ := List.forall_mem_cons.mp h
      simp [List.mapM_cons, hitem, ih hrest]

variable {fill : Bool} {kind : Scalar} {type : Primitive} {n : Nat} {cell : Cell}

/-- Whoever does not ask whether a slot is null reads what lies there. -/
@[simp] theorem scalar?_ofSlot (slot : Slot kind.Value) :
    (ofSlot kind slot).scalar? true kind = some slot.raw := by
  cases slot <;> simp [ofSlot, scalar?]

@[simp] theorem optional?_ofSlot (slot : Slot kind.Value) :
    (ofSlot kind slot).optional? kind = some slot.get? := by
  cases slot <;> simp [ofSlot, optional?, scalar?]

theorem isNull_of_optional? {value : kind.Value} (h : cell.optional? kind = some (some value)) :
    cell.isNull = false := by
  cases cell with
  | null => cases h
  | hole other raw => simp [optional?] at h
  | _ => rfl

/-- A scalar that is there is read as it is. -/
theorem scalar?_of_strict {value : kind.Value} (h : cell.scalar? false kind = some value) :
    cell.scalar? fill kind = some value := by
  cases cell <;> simp_all [scalar?]

theorem scalar?_of_isNull_eq_false (h : cell.isNull = false) :
    cell.scalar? fill kind = cell.scalar? false kind := by
  cases cell <;> simp_all [scalar?, isNull]

theorem vector?_of_strict {row : Option (Vector type.Native n)}
    (h : cell.vector? false type n = some row) : cell.vector? fill type n = some row := by
  cases cell with
  | list items =>
      simp only [vector?, Option.map_eq_some_iff, Option.bind_eq_some_iff] at h ⊢
      obtain ⟨vector, ⟨values, hvalues, hvector⟩, hrow⟩ := h
      exact ⟨vector, ⟨values, mapM_of_imp (fun _ _ => scalar?_of_strict) hvalues, hvector⟩, hrow⟩
  | _ => exact h

theorem vector?_list_congr {fill' : Bool} {items : List Cell}
    (h : ∀ item ∈ items,
      item.scalar? fill (.primitive type) = item.scalar? fill' (.primitive type)) :
    (list items).vector? fill type n = (list items).vector? fill' type n := by
  rw [vector?, vector?, Column.mapM_congr h]

/-- A list is absent exactly if it is null. -/
theorem vector?_absent {row : Option (Vector type.Native n)}
    (h : cell.vector? fill type n = some row) : row = none ↔ cell.isAbsent = true := by
  cases cell with
  | null =>
      cases h
      simp [isAbsent]
  | list items =>
      obtain ⟨vector, -, rfl⟩ := Option.map_eq_some_iff.mp h
      simp [isAbsent]
  | _ => cases h

end Cell

/-! ## Outcomes -/

/-- Whether an error comes down to a null where a value is required. -/
def DecodeError.IsMissing (e : DecodeError) : Prop :=
  ∃ name index, e.root = .missingData name index

theorem DecodeError.isMissing_context {location : String} {e : DecodeError} :
    (context location e).IsMissing ↔ e.IsMissing :=
  Iff.rfl

/-- What decoding comes to where a reader finds a value, or none. If `pointed` holds,
nothing but a null makes it fail. -/
inductive Agrees (pointed : Prop) : Except DecodeError α → Option α → Prop where
  | ok (value : α) : Agrees pointed (.ok value) (some value)
  | error (e : DecodeError) (missing : pointed → e.IsMissing) : Agrees pointed (.error e) none

namespace Agrees

variable {pointed : Prop} {result : Except DecodeError α} {reading : Option α}

theorem of_ok (value : α) (hresult : result = .ok value) (hreading : reading = some value) :
    Agrees pointed result reading := by
  subst hresult hreading
  exact .ok value

theorem ok_iff {value : α} (h : Agrees pointed result reading) :
    result = .ok value ↔ reading = some value := by
  cases h <;> simp

theorem isMissing {e : DecodeError} (h : Agrees pointed (.error e) reading) (hpointed : pointed) :
    e.IsMissing := by
  cases h with
  | error _ missing => exact missing hpointed

theorem map (wrap : α → β) (h : Agrees pointed result reading) :
    Agrees pointed (result.map wrap) (reading.map wrap) := by
  cases h with
  | ok value => exact .ok (wrap value)
  | error e missing => exact .error e missing

theorem imp {pointed' : Prop} (himp : pointed' → pointed) (h : Agrees pointed result reading) :
    Agrees pointed' result reading := by
  cases h with
  | ok value => exact .ok value
  | error e missing => exact .error e fun hpointed => missing (himp hpointed)

end Agrees

namespace Column

/-- The values that a reader takes the rows of a column for. -/
structure Reads (read : Cell → Option (Option α)) (c : Column) (values : List (Option α)) :
    Prop where
  length : values.length = c.length
  row (row : Nat) (hrow : row < values.length) : read (c.cell row) = some values[row]

variable {read : Cell → Option (Option α)} {c : Column} {values : List (Option α)}

/-- A column is read if each of its rows is. -/
theorem exists_reads (h : ∀ row < c.length, (read (c.cell row)).isSome = true) :
    ∃ values, c.Reads read values := by
  refine ⟨(List.range c.length).map fun row => (read (c.cell row)).getD none, by simp, ?_⟩
  intro row hrow
  have hread := h row (by simpa using hrow)
  rw [List.getElem_map, List.getElem_range]
  cases hvalue : read (c.cell row) with
  | none => simp [hvalue] at hread
  | some value => rfl

/-- A reader takes a column for one list of values only. -/
theorem Reads.unique {other : List (Option α)} (h : c.Reads read values)
    (hother : c.Reads read other) : values = other := by
  apply List.ext_getElem (h.length.trans hother.length.symm)
  intro row hrow hrow'
  exact Option.some.inj ((h.row row hrow).symm.trans (hother.row row hrow'))

theorem Reads.imp {read' : Cell → Option (Option α)}
    (himp : ∀ cell value, read cell = some value → read' cell = some value)
    (h : c.Reads read values) : c.Reads read' values :=
  ⟨h.length, fun row hrow => himp _ _ (h.row row hrow)⟩

/-- The row of an array of values that were read. -/
theorem Reads.itemAt (h : c.Reads read values) {row : Nat} (hrow : row < c.length) :
    ∃ value, itemAt values.toArray row = .ok value ∧ read (c.cell row) = some value := by
  have hvalues : row < values.length := h.length ▸ hrow
  exact ⟨values[row], by simp [hvalues], h.row row hvalues⟩

/-- A scalar column is read slot by slot. -/
theorem reads_scalar {kind : Scalar} (slots : List (Slot kind.Value)) :
    (scalar kind slots).Reads (Cell.optional? kind) (slots.map Slot.get?) where
  length := List.length_map _
  row row hrow := by
    rw [List.length_map] at hrow
    rw [cell_scalar hrow, List.getElem_map, Cell.optional?_ofSlot]

/-- A column in which a reader finds a value in every row that is not null. -/
def Legible (read : Cell → Option (Option α)) (c : Column) : Prop :=
  ∀ row < c.length, (c.cell row).isNull = false → ∃ value, read (c.cell row) = some (some value)

theorem legible_scalar {kind : Scalar} (slots : List (Slot kind.Value)) :
    (scalar kind slots).Legible (Cell.optional? kind) := by
  intro slot hslot hnull
  rw [cell_scalar hslot, Cell.isNull_ofSlot] at hnull
  rw [cell_scalar hslot, Cell.optional?_ofSlot]
  cases hvalue : slots[slot] with
  | null raw => simp [hvalue] at hnull
  | value value => exact ⟨value, rfl⟩

/-! ## Reading row by row -/

variable {length : Nat} {validity : Option (List Bool)}
  {readRow : Bool → Nat → Except DecodeError α}

/-- Every row is read with its own bit. -/
theorem readRows_eq_mapM (h : BitsFit length validity) :
    readRows length validity readRow =
      (List.range length).mapM fun row => readRow (isPresent validity row) row := by
  cases validity with
  | none =>
      rw [readRows, readFrom_zero, List.range_eq_range']
      rfl
  | some bits =>
      have hbits : bits.length = length := h bits rfl
      rw [readRows, readFrom_zero, List.range_eq_range']
      apply mapM_congr
      intro row hrow
      have hlt : row < bits.length := by
        rw [hbits]
        simpa using hrow
      simp [Column.itemAt, hlt, isPresent, bind, Except.bind]

/-! ## Outcomes and readings -/

/-- What decoding a column comes to if it agrees with a reader in each row. -/
structure DecodesTo (c : Column) (pointed : Prop) (read : Cell → Option (Option α))
    (result : Except DecodeError (List (Option α))) : Prop where
  ok_iff {values : List (Option α)} : result = .ok values ↔ c.Reads read values
  isMissing {e : DecodeError} (hpointed : pointed) (herror : result = .error e) : e.IsMissing

variable {pointed : Prop}

/-- Items that agree with the rows of a column decode to what the rows are read as. -/
theorem decodesTo_mapM {β : Type} {items : List β} {decode : β → Except DecodeError (Option α)}
    (hlength : items.length = c.length)
    (h : ∀ row, (hrow : row < items.length) →
      Agrees pointed (decode items[row]) (read (c.cell row))) :
    c.DecodesTo pointed read (items.mapM decode) where
  ok_iff {values} := by
    rw [mapM_eq_ok_iff]
    constructor
    · rintro ⟨hcount, hdecode⟩
      refine ⟨hcount.trans hlength, fun row hrow => ?_⟩
      have hitem : row < items.length := Nat.lt_of_lt_of_eq hrow hcount
      exact (h row hitem).ok_iff.mp (hdecode row hitem hrow)
    · intro hreads
      refine ⟨hreads.length.trans hlength.symm, fun row hitem hrow => ?_⟩
      exact (h row hitem).ok_iff.mpr (hreads.row row hrow)
  isMissing {e} hpointed herror := by
    obtain ⟨item, hmem, hitem⟩ := exists_of_mapM_error herror
    obtain ⟨row, hrow, rfl⟩ := List.getElem_of_mem hmem
    have hagrees := h row hrow
    rw [hitem] at hagrees
    exact hagrees.isMissing hpointed

/-- Rows that agree with those of a column, read by their number. -/
theorem decodesTo_range {decode : Nat → Except DecodeError (Option α)}
    (h : ∀ row < c.length, Agrees pointed (decode row) (read (c.cell row))) :
    c.DecodesTo pointed read ((List.range c.length).mapM decode) :=
  decodesTo_mapM List.length_range fun row hrow => by
    rw [List.getElem_range]
    exact h row (by simpa using hrow)

/-- A column of which each row is read decodes, also if the reader is a stricter one. -/
theorem DecodesTo.exists_ok {result : Except DecodeError (List (Option α))}
    {strict : Cell → Option (Option α)} (h : c.DecodesTo pointed read result)
    (himp : ∀ cell value, strict cell = some value → read cell = some value)
    (hread : ∀ row < c.length, (strict (c.cell row)).isSome = true) :
    ∃ values, result = .ok values ∧ c.Reads strict values := by
  obtain ⟨values, hvalues⟩ := exists_reads hread
  exact ⟨values, h.ok_iff.mpr (hvalues.imp himp), hvalues⟩

theorem DecodesTo.of_ok {result : Except DecodeError (List (Option α))}
    (hresult : result = .ok values) (hreads : c.Reads read values) :
    c.DecodesTo pointed read result where
  ok_iff {others} := by
    rw [hresult, Except.ok.injEq]
    constructor
    · rintro rfl
      exact hreads
    · exact hreads.unique
  isMissing _ herror := by
    rw [hresult] at herror
    cases herror

/-- Rows that all decode to what the rows of a column are read as. -/
theorem exists_mapM_range {decode : Nat → Except DecodeError (Option α)}
    (h : ∀ row < c.length, ∃ value, decode row = .ok value ∧ read (c.cell row) = some value) :
    ∃ values, (List.range c.length).mapM decode = .ok values ∧ c.Reads read values := by
  have hdecodes : c.DecodesTo True read ((List.range c.length).mapM decode) := by
    refine decodesTo_range fun row hrow => ?_
    obtain ⟨value, hdecode, hread⟩ := h row hrow
    exact .of_ok value hdecode hread
  refine hdecodes.exists_ok (fun _ _ hread => hread) fun row hrow => ?_
  obtain ⟨value, -, hread⟩ := h row hrow
  rw [hread]
  rfl

end Column

end SpatialColumns
