import SpatialColumns.Column.Fit
import SpatialColumns.Column.Presence
import SpatialColumns.Column.Slice
import SpatialColumns.ColumnError
/-! # Assembling columns from children

Structs, unions and lists are put together from finished children. Assembly
checks that the parts fit; the first check that fails gives the error. -/

namespace SpatialColumns.Column

/-- Whether every row without a value lies in a row that is itself null. Where all
rows are present, a child has to come without validity bits. -/
def nullsMasked (validity : Option (List Bool)) (child : Option Presence) : Bool :=
  match validity, child with
  | _, none => true
  | none, some _ => false
  | some bits, some child => child.isFull || child.covers bits

/-- Why a child does not fit its field in a struct of the given length, if it does not. -/
def fieldDefect? (length : Nat) (validity : Option (List Bool)) (entry : Field × Column) :
    Option ColumnError :=
  let (field, child) := entry
  if child.datatype ≠ field.type then
    some (.fieldType field.name field.type child.datatype)
  else if child.length ≠ length then
    some (.fieldLength field.name length child.length)
  else if !field.nullable && !nullsMasked validity child.occupied then
    some (.unmaskedNulls field.name)
  else none

/-- Why validity bits do not fit a struct of the given length, if they do not. -/
def validityDefect? (length : Nat) (validity : Option (List Bool)) : Option ColumnError :=
  validity.bind fun bits =>
    if bits.length ≠ length then some (.validityLength length bits.length) else none

/-- A struct with the given fields. Its length is that of its first child. -/
def struct? (fields : List Field) (children : List Column) (validity : Option (List Bool)) :
    Except ColumnError Column :=
  let length := (children.head?.map Column.length).getD 0
  if fields.length ≠ children.length then
    .error (.fieldCount fields.length children.length)
  else match (validityDefect? length validity).or
      ((fields.zip children).findSome? (fieldDefect? length validity)) with
    | some e => .error e
    | none => .ok (struct fields length validity children)

/-- The lengths of the arms' children by type id. A length is kept in 32 bits,
where the least number stands for no arm at all. -/
def armLengths (arms : List (Int8 × Field)) (children : List Column) : List (Int8 × Int32) :=
  ((arms.zip children).map fun (arm, child) => (arm.1, Int32.ofNat child.length)).filter
    fun entry => entry.2 ≠ Int32.minValue

/-- Whether an entry points at a slot of its arm. -/
def entryInRange (lengths : List (Int8 × Int32)) (entry : Int8 × Int32) : Bool :=
  match lengths.lookup entry.1 with
  | some length => 0 ≤ entry.2.toInt && entry.2.toInt < length.toInt
  | none => false

/-- Why entries do not fit the children of a union in number, if they do not. -/
def entryCountDefect? (mode : UnionMode) (typeIds : List Int8) (offsets : List Int32)
    (children : List Column) : Option ColumnError :=
  match mode with
  | .dense => if offsets.length ≠ typeIds.length then some .offsetCount else none
  | .sparse =>
    if children.any fun child => child.length ≠ typeIds.length then some .sparseArmLength else none

/-- A union with the given arms. The children are not compared with the
datatypes of the arms, and are cut to their rows. -/
def union? (arms : List (Int8 × Field)) (mode : UnionMode) (typeIds : List Int8)
    (offsets : List Int32) (children : List Column) : Except ColumnError Column :=
  let lengths := armLengths arms children
  if arms.length ≠ children.length then .error .armCount
  else match entryCountDefect? mode typeIds offsets children with
    | some e => .error e
    | none =>
      if !typeIds.all fun typeId => (lengths.lookup typeId).isSome then .error .unknownTypeId
      else if mode = .dense && !(typeIds.zip offsets).all (entryInRange lengths) then
        .error .offsetOutOfRange
      else match cutAll? none children with
        | some children => .ok (union arms mode typeIds offsets children)
        | none => .error .missingSlots

/-- The rows of a list with the given items. Items are divided into rows; a list
of empty rows has only its validity bits to tell their number. -/
def listLength (size : Int32) (validity : Option (List Bool)) (child : Column) : Nat :=
  if rowSize size = 0 then (validity.map List.length).getD 0 else child.length / rowSize size

/-- Whether every item without a value lies in a row that is null. A row has as many
validity bits as it has items. -/
def itemsMasked (size : Int32) (validity : Option (List Bool)) (items : Option Presence) : Bool :=
  items.all fun items =>
    items.isFull || validity.any fun bits =>
      items.covers (bits.flatMap (List.replicate (rowSize size)))

/-- A list column with the given items. -/
def fixedSizeList? (item : Field) (size : Int32) (validity : Option (List Bool))
    (child : Column) : Except ColumnError Column :=
  let list := DataType.fixedSizeList item size
  let length := listLength size validity child
  if size < 0 then .error (.negativeSize list size)
  else match (validity.map List.length).filter (· ≠ length) with
    | some found => .error (.listValidityLength length found)
    | none =>
      if !item.nullable && !itemsMasked size validity child.occupied then
        .error (.unmaskedItems child.datatype none)
      else .ok (fixedSizeList item size length validity child)

/-- The column put together from its own parts, which are checked as if they
were new. Its length is the one that they give it. -/
def assembled : Column → Except ColumnError Column
  | fixedSizeList item size _ validity child => fixedSizeList? item size validity child
  | struct fields _ validity children => struct? fields children validity
  | union arms mode typeIds offsets children => union? arms mode typeIds offsets children
  | c => .ok c

end SpatialColumns.Column
