import SpatialColumns.Column
import SpatialColumns.DecodeError
/-! # Looking inside a column

A decoder states the datatype that it reads. It refuses a column of any other
datatype before it looks at the slots. -/

namespace SpatialColumns.Column

/-- Refuses a column that is not of the expected datatype. -/
def expect (c : Column) (expected : DataType) : Except DecodeError Unit :=
  if c.datatype = expected then .ok ()
  else .error (.datatypeMismatch expected c.datatype)

@[simp] theorem expect_eq_ok_iff {c : Column} {expected : DataType} {u : Unit} :
    c.expect expected = .ok u ↔ c.datatype = expected := by
  unfold expect
  split <;> simp_all

theorem expect_of_ne {c : Column} {expected : DataType} (h : c.datatype ≠ expected) :
    c.expect expected = .error (.datatypeMismatch expected c.datatype) := by
  simp [expect, h]

/-- Refuses a column of another datatype, then one of another layout. -/
def downcast (c : Column) (expected : DataType) (layout : Layout) : Except DecodeError Unit := do
  c.expect expected
  if c.layout = layout then .ok ()
  else .error (.datatypeMismatch expected c.datatype)

/-- The slots of a scalar column of the given kind. -/
def scalarSlots (c : Column) (kind : Scalar) :
    Except DecodeError (List (Slot kind.Value)) :=
  match c.slots? kind with
  | some slots => .ok slots
  | none => .error (.datatypeMismatch (.scalar kind) c.datatype)

@[simp] theorem scalarSlots_scalar (kind : Scalar) (slots : List (Slot kind.Value)) :
    (scalar kind slots).scalarSlots kind = .ok slots := by
  simp [scalarSlots]

/-- The item of a slot, which has to be there. -/
def itemAt {α : Type} (items : Array α) (slot : Nat) : Except DecodeError α :=
  match items[slot]? with
  | some item => .ok item
  | none => .error (.slotOutOfRange slot items.size)

@[simp] theorem itemAt_eq_ok_iff {α : Type} {items : Array α} {slot : Nat} {item : α} :
    itemAt items slot = .ok item ↔ items[slot]? = some item := by
  unfold itemAt
  split <;> simp_all

/-- The child of the first field with the given name. -/
def structField (datatype field : String) (fields : List Field) (children : List Column) :
    Except DecodeError Column :=
  match (fields.zip children).find? fun entry => entry.1.name = field with
  | some entry => .ok entry.2
  | none => .error (.missingStructField datatype field)

/-- The child of the arm with the given type id. -/
def armChild (datatype : String) (typeId : Int8) (arms : List (Int8 × Field))
    (children : List Column) : Except DecodeError Column :=
  match (arms.zip children).find? fun entry => entry.1.1 = typeId with
  | some entry => .ok entry.2
  | none => .error (.unknownUnionArm datatype typeId)

end SpatialColumns.Column
