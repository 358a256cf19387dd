import SpatialColumns.DataType
import SpatialColumns.Slot
/-! # Columns

A column is a sequence of slots of one datatype. A scalar column keeps its
slots, null ones with their bits; the nested layouts keep children and, where
rows can be null, one validity bit per row. A column carries the fields of its
datatype, so the datatype is read off the column without looking at its
children. -/

namespace SpatialColumns

inductive Column where
  | null (length : Nat)
  | scalar (kind : Scalar) (slots : List (Slot kind.Value))
  | fixedSizeList (item : Field) (size : Int32) (length : Nat)
      (validity : Option (List Bool)) (child : Column)
  | list (item : Field) (offsets : List Nat) (validity : Option (List Bool)) (child : Column)
  | struct (fields : List Field) (length : Nat) (validity : Option (List Bool))
      (children : List Column)
  | union (arms : List (Int8 × Field)) (mode : UnionMode) (typeIds : List Int8)
      (offsets : List Int32) (children : List Column)

namespace Column

def datatype : Column → DataType
  | null _ => .null
  | scalar kind _ => .scalar kind
  | fixedSizeList item size .. => .fixedSizeList item size
  | list item .. => .list item
  | struct fields .. => .struct fields
  | union arms mode .. => .union arms mode

/-- The number of rows. -/
def length : Column → Nat
  | null n => n
  | scalar _ slots => slots.length
  | fixedSizeList _ _ n .. => n
  | list _ offsets .. => offsets.length - 1
  | struct _ n .. => n
  | union _ _ typeIds .. => typeIds.length

/-- One bit per row of a nested column, set where the row is present. -/
def presence (length : Nat) : Option (List Bool) → List Bool
  | none => List.replicate length true
  | some bits => bits

/-- The validity bits that a column itself keeps. A column of nulls and a
union keep none. -/
def ownValidity : Column → Option (List Bool)
  | null _ => none
  | scalar _ slots => some (slots.map Slot.isValue)
  | fixedSizeList _ _ _ validity _ => validity
  | list _ _ validity _ => validity
  | struct _ _ validity _ => validity
  | union .. => none

/-- The number of rows whose own validity bit is off. -/
def nullCount (c : Column) : Nat :=
  (c.ownValidity.getD []).count false

/-- The slots of a scalar column of the given kind. -/
def slots? (kind : Scalar) : Column → Option (List (Slot kind.Value))
  | scalar other slots => if h : other = kind then some (h ▸ slots) else none
  | _ => none

@[simp] theorem slots?_scalar (kind : Scalar) (slots : List (Slot kind.Value)) :
    (scalar kind slots).slots? kind = some slots := by
  simp [slots?]

@[simp] theorem presence_none (n : Nat) : presence n none = List.replicate n true := rfl

@[simp] theorem presence_some (n : Nat) (bits : List Bool) : presence n (some bits) = bits := rfl

/-- The physical layouts, without the fields of the nested ones. -/
inductive Layout where
  | null
  | scalar (kind : Scalar)
  | fixedSizeList
  | list
  | struct
  | union
  deriving DecidableEq, Repr

def layout : Column → Layout
  | null _ => .null
  | scalar kind _ => .scalar kind
  | fixedSizeList .. => .fixedSizeList
  | list .. => .list
  | struct .. => .struct
  | union .. => .union

mutual

/-- The column without rows of a datatype. -/
def empty (t : DataType) : Column :=
  match t with
  | .null => null 0
  | .scalar kind => scalar kind []
  | .fixedSizeList item size => fixedSizeList item size 0 none (emptyField item)
  | .list item => list item [0] none (emptyField item)
  | .struct fields => struct fields 0 none (emptyFields fields)
  | .union arms mode => union arms mode [] [] (emptyArms arms)
  termination_by structural t

def emptyField (f : Field) : Column :=
  match f with
  | ⟨_, type, _, _⟩ => empty type
  termination_by structural f

def emptyFields (fs : List Field) : List Column :=
  match fs with
  | [] => []
  | f :: fs => emptyField f :: emptyFields fs
  termination_by structural fs

def emptyArms (arms : List (Int8 × Field)) : List Column :=
  match arms with
  | [] => []
  | (_, f) :: arms => emptyField f :: emptyArms arms
  termination_by structural arms

end

/-- The column without rows of a datatype. A union in it is made from its first
arm, so it has to have one. -/
def empty? (t : DataType) : Option Column := if t.isArmed then some (empty t) else none

@[simp] theorem datatype_empty (t : DataType) : (empty t).datatype = t := by
  cases t <;> rfl

@[simp] theorem length_empty (t : DataType) : (empty t).length = 0 := by
  cases t <;> rfl

end Column

end SpatialColumns
