import SpatialColumns.Column.Slice
/-! # Cutting a column to its rows

The parts of a column may hold more than its rows need. Cutting drops the items
beyond the rows of a list and the offsets beyond the entries of a union, at any
depth, and validity bits that are all set. The children of a struct and of a union
keep their own lengths, and so do validity bits, unless only the first rows are
wanted: then a struct takes as many of its children and of its bits. -/

namespace SpatialColumns.Column

/-- Validity bits, unless all rows are present. -/
def sealedBits (validity : Option (List Bool)) : Option (List Bool) :=
  validity.filter fun bits => bits.contains false

/-- The number of rows that are wanted, all if no number is given. -/
def wanted? (rows : Option Nat) (length : Nat) : Option Nat :=
  match rows with
  | none => some length
  | some count => if count ≤ length then some count else none

/-- The validity bits of the wanted rows. Bits that are all set are dropped first. -/
def cutBits? (rows : Option Nat) (validity : Option (List Bool)) : Option (Option (List Bool)) :=
  match sealedBits validity with
  | none => some none
  | some bits => (wanted? rows bits.length).map fun count => some (bits.take count)

/-- The offsets of a union's first entries. -/
def cutOffsets? (mode : UnionMode) (count : Nat) (offsets : List Int32) : Option (List Int32) :=
  match mode with
  | .dense => if count ≤ offsets.length then some (offsets.take count) else none
  | .sparse => some offsets

mutual

/-- The first rows of a column, or all of them, without what they do not need. A
part that has too little for them leaves no column. -/
def cut? (rows : Option Nat) (c : Column) : Option Column :=
  match c with
  | null n => (wanted? rows n).map null
  | scalar kind slots => (wanted? rows slots.length).map fun count => scalar kind (slots.take count)
  | fixedSizeList item size n validity child => do
    let count ← wanted? rows n
    let bits ← cutBits? rows validity
    let slots ← Size.mul? count (rowSize size)
    return fixedSizeList item size count bits (← cut? (some slots) child)
  | list item offsets validity child => do
    let count ← wanted? rows (offsets.length - 1)
    let bits ← cutBits? rows validity
    return list item (offsets.take (count + 1)) bits (← cut? none child)
  | struct fields n validity children => do
    let count ← wanted? rows n
    let bits ← cutBits? rows validity
    return struct fields count bits (← cutAll? rows children)
  | union arms mode typeIds offsets children => do
    let count ← wanted? rows typeIds.length
    let offsets ← cutOffsets? mode count offsets
    return union arms mode (typeIds.take count) offsets (← cutAll? none children)
  termination_by structural c

def cutAll? (rows : Option Nat) (cs : List Column) : Option (List Column) :=
  match cs with
  | [] => some []
  | c :: cs => do return (← cut? rows c) :: (← cutAll? rows cs)
  termination_by structural cs

end

/-- The column without anything that its rows do not need, if its parts have all
that they do need. -/
def fitted? (c : Column) : Option Column := c.cut? none

@[simp] theorem wanted?_none (length : Nat) : wanted? none length = some length := rfl

@[simp] theorem cut?_null (n : Nat) : (null n).cut? none = some (null n) := rfl

@[simp] theorem cut?_scalar (kind : Scalar) (slots : List (Slot kind.Value)) :
    (scalar kind slots).cut? none = some (scalar kind slots) := by
  simp [cut?]

end SpatialColumns.Column
