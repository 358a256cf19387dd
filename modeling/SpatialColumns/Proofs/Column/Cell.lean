import SpatialColumns.Column.DenseUnion

/-!
# What the rows of a column hold

A row of a column holds a cell: nothing, a scalar, or cells of its own. A null slot
of a flat column shows the bits that are in it. An entry of a union shows its type id,
the slot that it points at and what lies there, if anything does. Below a row that is
null nothing shows, whatever the children keep in their slots for it.
-/

namespace SpatialColumns

inductive Cell where
  | null
  /-- A null slot of a flat column, and what lies there all the same. -/
  | hole (kind : Scalar) (raw : kind.Value)
  | scalar (kind : Scalar) (value : kind.Value)
  | list (items : List Cell)
  | struct (parts : List Cell)
  /-- An entry of a union. The target is missing if no arm has such a slot. -/
  | entry (typeId : Int8) (slot : Nat) (target : Option Cell)

namespace Cell

def isNull : Cell → Bool
  | null => true
  | hole .. => true
  | _ => false

/-- Whether a cell stands for an absent value. -/
def isAbsent : Cell → Bool
  | null => true
  | hole .. => true
  | entry typeId _ _ => typeId = DenseUnion.nullMarkersTypeId
  | _ => false

/-- Whether an entry of a union is a null marker or points at a value. -/
def resolves : Cell → Bool
  | entry typeId _ target => typeId = DenseUnion.nullMarkersTypeId || target.any (!isNull ·)
  | _ => true

/-- What a slot of a flat column shows. -/
def ofSlot (kind : Scalar) : Slot kind.Value → Cell
  | .value value => scalar kind value
  | .null raw => hole kind raw

@[simp] theorem isNull_ofSlot {kind : Scalar} (slot : Slot kind.Value) :
    (ofSlot kind slot).isNull = !slot.isValue := by
  cases slot <;> rfl

/-- Cells that are the same, or that both resolve. -/
def Swappable (a b : Cell) : Prop := a = b ∨ a.resolves = true ∧ b.resolves = true

end Cell

namespace Column

/-- Whether a row of a nested column is marked as present. -/
def isPresent (validity : Option (List Bool)) (row : Nat) : Bool :=
  match validity with
  | none => true
  | some bits => bits.getD row false

mutual

/-- What a row of a column holds. -/
def cell (c : Column) (row : Nat) : Cell :=
  match c with
  | null _ => .null
  | scalar kind slots => (slots[row]?.map (Cell.ofSlot kind)).getD .null
  | fixedSizeList _ size _ validity child =>
    if isPresent validity row then
      .list ((List.range (rowSize size)).map fun k => cell child (row * rowSize size + k))
    else .null
  | list _ offsets validity child =>
    if isPresent validity row then
      let start := offsets.getD row 0
      .list ((List.range (offsets.getD (row + 1) 0 - start)).map fun k => cell child (start + k))
    else .null
  | struct _ _ validity children =>
    if isPresent validity row then .struct (cells children row) else .null
  | union arms mode typeIds offsets children =>
    match (unionEntries mode typeIds offsets)[row]? with
    | some (typeId, slot) => .entry typeId slot (target (arms.map (·.1)) children typeId slot)
    | none => .null
  termination_by structural c

/-- What a row of several columns holds. -/
def cells (cs : List Column) (row : Nat) : List Cell :=
  match cs with
  | [] => []
  | c :: cs => cell c row :: cells cs row
  termination_by structural cs

/-- What a slot of the first arm with the given type id holds. -/
def target (typeIds : List Int8) (cs : List Column) (typeId : Int8) (slot : Nat) : Option Cell :=
  match cs with
  | [] => none
  | c :: cs =>
    match typeIds with
    | [] => none
    | first :: typeIds =>
      if first = typeId then if slot < c.length then some (cell c slot) else none
      else target typeIds cs typeId slot
  termination_by structural cs

end

variable {kind : Scalar} {slots : List (Slot kind.Value)} {row : Nat}

theorem cell_scalar (hrow : row < slots.length) :
    (scalar kind slots).cell row = .ofSlot kind slots[row] := by
  rw [cell, List.getElem?_eq_getElem hrow]
  rfl

theorem cells_eq_map (cs : List Column) (row : Nat) : cells cs row = cs.map (cell · row) := by
  induction cs with
  | nil => rfl
  | cons c cs ih => rw [cells, ih, List.map_cons]

/-- The cells of a list are the slots of its row. -/
theorem cell_fixedSizeList (item : Field) (size : Int32) (length : Nat)
    (validity : Option (List Bool)) (child : Column) (row : Nat) :
    (fixedSizeList item size length validity child).cell row =
      if isPresent validity row then
        .list ((List.range (rowSize size)).map fun k => child.cell (row * rowSize size + k))
      else .null := by
  rw [cell]

/-- The cells of a struct are the slots of its children in the same row. -/
theorem cell_struct (fields : List Field) (length : Nat) (validity : Option (List Bool))
    (children : List Column) (row : Nat) :
    (struct fields length validity children).cell row =
      if isPresent validity row then .struct (children.map (cell · row)) else .null := by
  rw [cell, cells_eq_map]

/-- A row of a union shows its entry. -/
theorem cell_union (arms : List (Int8 × Field)) (mode : UnionMode) (typeIds : List Int8)
    (offsets : List Int32) (children : List Column) {row : Nat}
    (hrow : row < (unionEntries mode typeIds offsets).length) :
    (union arms mode typeIds offsets children).cell row =
      let (typeId, slot) := (unionEntries mode typeIds offsets)[row]
      .entry typeId slot (target (arms.map (·.1)) children typeId slot) := by
  rw [cell, List.getElem?_eq_getElem hrow]

/-- Only an entry of a union is absent without being null. -/
theorem isAbsent_cell {c : Column} (h : ∀ arms mode, c.datatype ≠ .union arms mode) (row : Nat) :
    (c.cell row).isAbsent = (c.cell row).isNull := by
  cases c with
  | union arms mode => exact absurd rfl (h arms mode)
  | scalar kind slots =>
      rw [cell]
      cases slots[row]? with
      | none => rfl
      | some slot => cases slot <;> rfl
  | _ =>
      rw [cell]
      try split
      all_goals rfl

end Column

end SpatialColumns
