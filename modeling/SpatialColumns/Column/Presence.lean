import SpatialColumns.Column
import SpatialColumns.Size
/-! # Which rows hold a value

A nested column keeps bits of its own, and there they decide. A column of nulls
and a union keep none: the first holds no value at all, and an entry of the
second holds one if the slot does that it points at. -/

namespace SpatialColumns

/-- For some number of rows, which of them hold a value. -/
structure Presence where
  length : Nat
  holds : Nat → Bool

namespace Presence

/-- One row per bit. Rows beyond the last bit are taken to hold a value. -/
def ofBits (bits : List Bool) : Presence :=
  let bits := bits.toArray
  ⟨bits.size, fun row => bits[row]?.getD true⟩

/-- Whether all rows hold a value. -/
def isFull (p : Presence) : Bool := p.length.all fun row _ => p.holds row

/-- Whether all rows with a set bit hold a value. -/
def covers (p : Presence) (bits : List Bool) : Bool :=
  bits.zipIdx.all fun (present, row) => !present || row < p.length && p.holds row

/-- The same rows, unless all of them hold a value. -/
def ifSome (p : Presence) : Option Presence := if p.isFull then none else some p

end Presence

namespace Column

/-- The slot that an offset points at. A negative offset is one near `2 ^ 64`. -/
def slotIndex (offset : Int32) : Nat := (offset.toInt % (Size.modulus : Int)).toNat

/-- The type id and slot of every entry of a union. -/
def unionEntries (mode : UnionMode) (typeIds : List Int8) (offsets : List Int32) :
    List (Int8 × Nat) :=
  match mode with
  | .dense => typeIds.zip (offsets.map slotIndex)
  | .sparse => typeIds.zipIdx

/-- Whether an entry points at a value. -/
def entryHolds (arms : List (Int8 × Option Presence)) (entry : Int8 × Nat) : Bool :=
  match arms.lookup entry.1 with
  | some (some arm) => arm.holds entry.2
  | _ => true

mutual

/-- Which rows hold a value, or none when every row does. A union of a single
arm has the rows of that arm, whatever its entries are. -/
def occupied (c : Column) : Option Presence :=
  match c with
  | null n => (Presence.mk n fun _ => false).ifSome
  | scalar _ slots => (Presence.ofBits (slots.map Slot.isValue)).ifSome
  | fixedSizeList _ _ _ validity _ => validity.map Presence.ofBits
  | list _ _ validity _ => validity.map Presence.ofBits
  | struct _ _ validity _ => validity.map Presence.ofBits
  | union arms mode typeIds offsets children =>
    match occupiedAll children with
    | [] => none
    | [arm] => arm
    | parts =>
      let entries := unionEntries mode typeIds offsets
      (Presence.ofBits (entries.map (entryHolds ((arms.map (·.1)).zip parts)))).ifSome
  termination_by structural c

def occupiedAll (cs : List Column) : List (Option Presence) :=
  match cs with
  | [] => []
  | c :: cs => occupied c :: occupiedAll cs
  termination_by structural cs

end

end Column

end SpatialColumns
