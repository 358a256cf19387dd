import SpatialColumns.Column.Assembly
import SpatialColumns.Column.Fit
/-! # Columns from elsewhere

A column that comes from elsewhere is put together again from what is stored of
it, its innermost parts first, and checked on the way. Unlike a column that is
assembled, it says how many rows it has. -/

namespace SpatialColumns.Column

/-- Bits as whole bytes hold them, where the last byte is filled up with unset bits. -/
def inBytes (bits : List Bool) : List Bool :=
  bits ++ List.replicate ((8 - bits.length % 8) % 8) false

/-- The validity bits of the rows, read off the bytes that hold all bits. -/
def storedBits (length : Nat) (validity : Option (List Bool)) :
    Except ColumnError (Option (List Bool)) :=
  match sealedBits validity with
  | none => .ok none
  | some bits =>
    if length ≤ (inBytes bits).length then .ok (some ((inBytes bits).take length))
    else .error (.missingBits length bits.length)

/-- A list column of the given length. Only the validity bits of its items are
looked at. Items beyond its rows are dropped, but not before they are checked. -/
def restoredList (item : Field) (size : Int32) (length : Nat) (validity : Option (List Bool))
    (child : Column) : Except ColumnError Column :=
  let list := DataType.fixedSizeList item size
  let items := (sealedBits child.ownValidity).map Presence.ofBits
  if size < 0 then .error (.negativeSize list size)
  else if !item.nullable && !itemsMasked size validity items then
    .error (.unmaskedItems child.datatype (if validity.isNone then some list else none))
  else match child.cut? (some (length * rowSize size)) with
    | some child => .ok (fixedSizeList item size length validity child)
    | none => .error .missingSlots

mutual

/-- The column put together again from its innermost parts outward. A struct
without fields has no child that could tell its length. -/
def restored (c : Column) : Except ColumnError Column :=
  match c with
  | null n => .ok (null n)
  | scalar kind slots => .ok (scalar kind slots)
  | fixedSizeList item size length validity child => do
    let child ← restored child
    restoredList item size length (sealedBits (← storedBits length validity)) child
  | list item offsets validity child => do
    return list item offsets validity (← restored child)
  | struct fields length validity children => do
    let children ← restoredAll children
    let bits ← storedBits length validity
    if fields.isEmpty then return struct fields length bits children
    else struct? fields children bits
  | union arms mode typeIds offsets children => do
    union? arms mode typeIds offsets (← restoredAll children)
  termination_by structural c

def restoredAll (cs : List Column) : Except ColumnError (List Column) :=
  match cs with
  | [] => .ok []
  | c :: cs => do return (← restored c) :: (← restoredAll cs)
  termination_by structural cs

end

/-- Bits that match the rows are read back as they are. -/
theorem storedBits_of_length {bits : List Bool} (h : bits.contains false = true) :
    storedBits bits.length (some bits) = .ok (some bits) := by
  have hsealed : sealedBits (some bits) = some bits := by
    simpa [sealedBits] using h
  simp [storedBits, hsealed, inBytes]

end SpatialColumns.Column
