import SpatialColumns.Column.Cast
import SpatialColumns.Column.Rows
import SpatialColumns.Column.Slice
import SpatialColumns.Column.Validity
/-! # Lists of a fixed size

Rows of `n` scalars lie one after another in a flat child. An absent row fills
its slots with zeros, so row `i` always starts at slot `i * n`. A reader finds that
slot by a product of 32 bits, so it reaches fewer rows than a column may have. -/

namespace SpatialColumns

/-- A list column under construction, with rows of `n` scalars. -/
structure FixedSizeListBuilder (type : Primitive) (n : Nat) where
  values : Array type.Native := #[]
  validity : ValidityBuilder := {}

namespace FixedSizeListBuilder

variable {type : Primitive} {n : Nat}

def withCapacity (capacity : Nat) : FixedSizeListBuilder type n :=
  ⟨Array.emptyWithCapacity (capacity * n), .withCapacity capacity⟩

/-- A builder with room for `capacity` rows, if the bytes of their values can be
that many. -/
def withCapacity? (capacity : Nat) : Option (FixedSizeListBuilder type n) :=
  (Size.room? capacity (capacity * n * type.width)).map withCapacity

def length (b : FixedSizeListBuilder type n) : Nat := b.validity.length

/-- Appends a row, or an absent one. -/
def push (b : FixedSizeListBuilder type n) (row : Option (Vector type.Native n)) :
    FixedSizeListBuilder type n :=
  match row with
  | some row => ⟨b.values ++ row.toArray, b.validity.push true⟩
  | none => ⟨b.values ++ Array.replicate n type.zero, b.validity.push false⟩

/-- The column of the pushed rows and the builder for the next column. -/
def finish (b : FixedSizeListBuilder type n) : Column × FixedSizeListBuilder type n :=
  let (validity, rest) := b.validity.finish
  (.fixedSizeList (.required "item" (.scalar (.primitive type))) (Int32.ofNat n) b.length validity
    (.scalar (.primitive type) (b.values.toList.map .value)), ⟨#[], rest⟩)

@[simp] theorem length_withCapacity (capacity : Nat) :
    (withCapacity capacity : FixedSizeListBuilder type n).length = 0 := rfl

@[simp] theorem length_push (b : FixedSizeListBuilder type n)
    (row : Option (Vector type.Native n)) : (b.push row).length = b.length + 1 := by
  cases row <;> simp [length, push]

end FixedSizeListBuilder

namespace Column

/-- The `n` slots from `start` on. -/
def readRow {α : Type} (slots : Array α) (n start : Nat) : Except DecodeError (Vector α n) :=
  let row := slots.extract start (start + n)
  if h : row.size = n then .ok ⟨row, h⟩
  else .error (.slotOutOfRange (max start slots.size) slots.size)

/-- The last slot that a row of a list can start at. -/
def lastStart : Nat := 0x7fff_ffff

/-- The slot that a row of a list starts at. The number of the row is cut to 32 bits
and multiplied by the row size, and there is no such slot if the product has more than
32 bits. A negative one is one near `2 ^ 64`. -/
def rowStart? (size : Int32) (row : Nat) : Option Nat :=
  let start := (Int32.ofNat row).toInt * size.toInt
  if Int32.minValue.toInt ≤ start ∧ start ≤ Int32.maxValue.toInt
  then some (start % (Size.modulus : Int)).toNat else none

/-- A row of a list as `n` of the scalars that its column has, if it is present. -/
def listRow {α : Type} (values : Array α) (n : Nat) (size : Int32) (present : Bool) (row : Nat) :
    Except DecodeError (Option (Vector α n)) :=
  if present then
    match rowStart? size row with
    | some start => (readRow values n start).map some
    | none => .error (.rowOutOfReach row size)
  else .ok none

/-- The rows of a list column as `n` scalars each. A row is read from where the
column's own row size puts it, whatever `n` is. The validity of the child is not
consulted. -/
def fixedSizeListRows (type : Primitive) (n : Nat) (expected : DataType) (c : Column) :
    Except DecodeError (List (Option (Vector type.Native n))) := do
  c.expect expected
  match c with
  | fixedSizeList _ size length validity child =>
    let slots ← child.scalarSlots (.primitive type)
    let values := (slots.map Slot.raw).toArray
    readRows length validity (listRow values n size)
  | _ => .error (.datatypeMismatch expected c.datatype)

end Column

end SpatialColumns
