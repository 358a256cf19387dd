import SpatialColumns.Size
import SpatialColumns.Column.Assembly
import SpatialColumns.Column.Cast
/-! # Dense unions with null markers

Every union here has a first arm of null markers, which stands for absent
values, followed by the arms of its own. An entry is a type id, naming an arm,
and the offset of a slot in that arm. -/

namespace SpatialColumns

namespace DenseUnion

/-- The type id of the arm that stands for absent values. -/
def nullMarkersTypeId : Int8 := 0

def nullMarkersField : Field := .optional "_null_markers" .null

/-- The type ids from zero up to a count that is stored in 8 bits. -/
def typeIdsBelow (count : Nat) : List Int8 :=
  (List.range (Int8.ofNat count).toInt.toNat).map Int8.ofNat

/-- The null markers followed by the given arms, numbered from zero. Arms
beyond the last type id are dropped. -/
def arms (fields : List Field) : List (Int8 × Field) :=
  (typeIdsBelow (fields.length + 1)).zip (nullMarkersField :: fields)

def datatype (fields : List Field) : DataType := .union (arms fields) .dense

/-- The largest offset of an entry. -/
def maxOffset : Nat := 0x7fff_ffff

/-- Why a new entry cannot point past a child of the given length, if it cannot. -/
def refusal (childLength : Nat) : Option ColumnError :=
  if childLength ≤ maxOffset then none else some (.armTooLong childLength)

end DenseUnion

/-- The entries of a dense union under construction. The arms' own columns are
kept elsewhere; of the null markers only the number matters. -/
structure UnionEntries where
  typeIds : Array Int8 := #[]
  offsets : Array Int32 := #[]
  nullMarkers : Nat := 0

namespace UnionEntries

open DenseUnion

def withCapacity (capacity : Nat) : UnionEntries :=
  ⟨Array.emptyWithCapacity capacity, Array.emptyWithCapacity capacity, 0⟩

/-- A builder with room for `capacity` entries, if the bytes of their offsets,
four each, can be that many. -/
def withCapacity? (capacity : Nat) : Option UnionEntries :=
  (Size.room? capacity (capacity * 4)).map withCapacity

def length (b : UnionEntries) : Nat := b.typeIds.size

/-- Records an entry that points just past a child of the given length. -/
def record (b : UnionEntries) (typeId : Int8) (childLength : Nat) : UnionEntries :=
  { b with
    typeIds := b.typeIds.push typeId
    offsets := b.offsets.push (Int32.ofNat childLength) }

/-- Records an absent entry. -/
def recordNull (b : UnionEntries) : UnionEntries :=
  let markers := b.nullMarkers
  { b.record nullMarkersTypeId markers with nullMarkers := markers + 1 }

/-- Records an entry, or refuses it and leaves all entries as they are. -/
def append (b : UnionEntries) (typeId : Int8) (childLength : Nat) :
    Except ColumnError Unit × UnionEntries :=
  match refusal childLength with
  | some e => (.error e, b)
  | none => (.ok (), b.record typeId childLength)

/-- Records an absent entry, or refuses it and leaves all entries as they are. -/
def appendNull (b : UnionEntries) : Except ColumnError Unit × UnionEntries :=
  match refusal b.nullMarkers with
  | some e => (.error e, b)
  | none => (.ok (), b.recordNull)

/-- The entries with a further one, unless its offset is too large. -/
def push (b : UnionEntries) (typeId : Int8) (childLength : Nat) :
    Except ColumnError UnionEntries :=
  let (result, entries) := b.append typeId childLength
  result.map fun () => entries

/-- The entries with a further absent one, unless its offset is too large. -/
def pushNull (b : UnionEntries) : Except ColumnError UnionEntries :=
  let (result, entries) := b.appendNull
  result.map fun () => entries

/-- The union of the recorded entries over the given arms and children, the
null markers apart, and the builder for the next union. -/
def finish (b : UnionEntries) (arms : List (Int8 × Field)) (children : List Column) :
    Except ColumnError Column × UnionEntries :=
  (Column.union? arms .dense b.typeIds.toList b.offsets.toList (.null b.nullMarkers :: children),
    {})

@[simp] theorem length_withCapacity (n : Nat) : (withCapacity n).length = 0 := rfl

@[simp] theorem length_record (b : UnionEntries) (typeId : Int8) (childLength : Nat) :
    (b.record typeId childLength).length = b.length + 1 := by
  simp [length, record]

@[simp] theorem length_recordNull (b : UnionEntries) : b.recordNull.length = b.length + 1 := by
  simp [length, recordNull, record]

end UnionEntries

namespace Column

/-- The values of a union's entries, where `resolve` looks a slot up in an arm
and knows no arm by an unknown type id. -/
def unionValues {α : Type} (datatype : String) (entries : List (Int8 × Nat))
    (resolve : Int8 → Nat → Option (Except DecodeError α)) :
    Except DecodeError (List (Option α)) :=
  entries.mapM fun (typeId, slot) =>
    if typeId = DenseUnion.nullMarkersTypeId then .ok none
    else match resolve typeId slot with
      | some value => value.map some
      | none => .error (.unknownUnionArm datatype typeId)

/-- The value of a slot of a decoded arm, which must be present. -/
def armValue {α : Type} (values : Array (Option α)) (slot : Nat) (datatype : String) :
    Except DecodeError α :=
  match values[slot]? with
  | some (some value) => .ok value
  | some none => .error (.missingData datatype slot)
  | none => .error (.offsetOutOfBounds datatype slot values.size)

end Column

end SpatialColumns
