import SpatialColumns.Column
import SpatialColumns.Size
/-! # Slices of a column

A slice keeps a contiguous run of rows. Lists and structs slice their children
with their rows. A dense union keeps its arms whole, because its entries point
into them; the arms of a sparse union run parallel to its entries. -/

namespace SpatialColumns.Column

/-- The items from `offset` on, at most `count` of them. -/
def window {α : Type} (offset count : Nat) (items : List α) : List α :=
  (items.drop offset).take count

/-- The number of child slots of each row of a fixed-size list. A negative size is
one near `2 ^ 64`. -/
def rowSize (size : Int32) : Nat := (size.toInt % (Size.modulus : Int)).toNat

mutual

/-- The rows from `offset` on, `count` of them. -/
def slice (offset count : Nat) (c : Column) : Column :=
  match c with
  | null _ => null count
  | scalar kind slots => scalar kind (window offset count slots)
  | fixedSizeList item size _ validity child =>
    fixedSizeList item size count (validity.map (window offset count))
      (slice (offset * rowSize size) (count * rowSize size) child)
  | list item offsets validity child =>
    list item (window offset (count + 1) offsets) (validity.map (window offset count)) child
  | struct fields _ validity children =>
    struct fields count (validity.map (window offset count)) (sliceAll offset count children)
  | union arms .dense typeIds offsets children =>
    union arms .dense (window offset count typeIds) (window offset count offsets) children
  | union arms .sparse typeIds offsets children =>
    union arms .sparse (window offset count typeIds) offsets (sliceAll offset count children)
  termination_by structural c

def sliceAll (offset count : Nat) (cs : List Column) : List Column :=
  match cs with
  | [] => []
  | c :: cs => slice offset count c :: sliceAll offset count cs
  termination_by structural cs

end

/-- Whether there is a validity bit for every row of a slice. -/
def bitsReach (offset count : Nat) (validity : Option (List Bool)) : Bool :=
  validity.all fun bits => Size.reaches bits.length offset count

mutual

/-- Whether a column has the rows of a slice, and each of its parts has what the
slice takes of it. -/
def sliceable (offset count : Nat) (c : Column) : Bool :=
  match c with
  | null n => Size.reaches n offset count
  | scalar _ slots => Size.reaches slots.length offset count
  | fixedSizeList _ size n validity child =>
    Size.reaches n offset count && bitsReach offset count validity &&
      sliceable (offset * rowSize size) (count * rowSize size) child
  | list _ offsets validity _ =>
    Size.reaches (offsets.length - 1) offset count && bitsReach offset count validity
  | struct _ n validity children =>
    Size.reaches n offset count && bitsReach offset count validity &&
      sliceableAll offset count children
  | union _ .dense typeIds offsets _ =>
    Size.reaches (min typeIds.length offsets.length) offset count
  | union _ .sparse typeIds _ children =>
    Size.reaches typeIds.length offset count && sliceableAll offset count children
  termination_by structural c

def sliceableAll (offset count : Nat) (cs : List Column) : Bool :=
  match cs with
  | [] => true
  | c :: cs => sliceable offset count c && sliceableAll offset count cs
  termination_by structural cs

end

/-- The rows from `offset` on, `count` of them, if there are so many. -/
def slice? (offset count : Nat) (c : Column) : Option Column :=
  if c.sliceable offset count then some (c.slice offset count) else none

@[simp] theorem datatype_slice (offset count : Nat) (c : Column) :
    (c.slice offset count).datatype = c.datatype := by
  cases c with
  | union arms mode => cases mode <;> rfl
  | _ => rfl

theorem slice?_eq_some_iff {offset count : Nat} {c part : Column} :
    c.slice? offset count = some part ↔
      c.sliceable offset count = true ∧ part = c.slice offset count := by
  unfold slice?
  split
  next h => simp [h, eq_comm]
  next h => simp [h]

theorem sliceAll_eq_map (offset count : Nat) (cs : List Column) :
    sliceAll offset count cs = cs.map (slice offset count) := by
  induction cs with
  | nil => rfl
  | cons c cs ih => simp [sliceAll, ih]

end SpatialColumns.Column
