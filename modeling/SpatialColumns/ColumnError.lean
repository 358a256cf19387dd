import SpatialColumns.DataType.Text
/-! # Errors of column assembly

The reasons why parts do not make up a column or a record batch. Each reason
belongs to a category, which opens its message. -/

namespace SpatialColumns

inductive ColumnError.Category where
  | invalidArgument
  | compute
  | schema
  | cast
  | stream
  | notYetImplemented
  | divideByZero
  deriving DecidableEq, Repr

inductive ColumnError where
  /-- An arm of a union under construction is too long for a 32-bit offset. -/
  | armTooLong (length : Nat)
  /-- A union has more or fewer children than arms. -/
  | armCount
  /-- A dense union has more or fewer offsets than type ids. -/
  | offsetCount
  /-- A child of a sparse union does not have one slot per entry. -/
  | sparseArmLength
  /-- A union entry names no arm. -/
  | unknownTypeId
  /-- A union entry points outside its arm. -/
  | offsetOutOfRange
  /-- A struct has more or fewer children than fields. -/
  | fieldCount (expected found : Nat)
  /-- A struct has a validity bit too many or too few. -/
  | validityLength (expected found : Nat)
  /-- A struct child is not of its field's datatype. -/
  | fieldType (field : String) (expected found : DataType)
  /-- A struct child is longer or shorter than the first one. -/
  | fieldLength (field : String) (expected found : Nat)
  /-- A list has a validity bit too many or too few. -/
  | listValidityLength (expected found : Nat)
  /-- A required struct child is null in a row that is present. -/
  | unmaskedNulls (field : String)
  /-- A list has rows of fewer than no items. -/
  | negativeSize (list : DataType) (size : Int32)
  /-- A required item of a list is null in a row that is present. The list is
  named if all of its rows are. -/
  | unmaskedItems (item : DataType) (list : Option DataType)
  /-- A required column of a record batch has nulls. -/
  | nullsInColumn (column : String)
  /-- A column of a record batch does not have one slot per row. -/
  | rowCount
  /-- A column of a record batch is not of its field's datatype. -/
  | columnType (index : Nat) (expected found : DataType)
  /-- A stream says that its header has a negative number of bytes. -/
  | negativeLength (length : Int32)
  /-- A stream has too few validity bits for the rows of a column. -/
  | missingBits (expected found : Nat)
  /-- A part of a column has too few slots for the rows that it belongs to. -/
  | missingSlots
  /-- Any other reason, in the words of whoever gives it. -/
  | reported (category : ColumnError.Category) (text : String)
  deriving DecidableEq

namespace ColumnError

def category : ColumnError → Category
  | reported category _ => category
  | negativeLength _ => .stream
  | missingBits .. => .stream
  | _ => .invalidArgument

/-- Whether nothing but the fault is reported, and no reason. -/
def isUnexplained : ColumnError → Bool
  | negativeLength _ => true
  | missingBits .. => true
  | missingSlots => true
  | _ => false

/-- The reason without its category. -/
def text : ColumnError → String
  | armTooLong length =>
    "dense union child length " ++ toString length ++ " exceeds i32::MAX"
  | armCount => "Union fields length must match child arrays length"
  | offsetCount => "Type Ids and Offsets lengths must match"
  | sparseArmLength =>
    "Sparse union child arrays must be equal in length to the length of the union"
  | unknownTypeId => "Type Ids values must match one of the field type ids"
  | offsetOutOfRange => "Offsets must be positive and within the length of the Array"
  | fieldCount expected found =>
    "Incorrect number of arrays for StructArray fields, expected " ++ toString expected ++
      " got " ++ toString found
  | validityLength expected found =>
    "Incorrect length of null buffer for StructArray, expected " ++ toString expected ++
      " got " ++ toString found
  | listValidityLength expected found =>
    "Incorrect length of null buffer for FixedSizeListArray, expected " ++ toString expected ++
      " got " ++ toString found
  | fieldType field expected found =>
    "Incorrect datatype for StructArray field " ++ Text.quoted field ++ ", expected " ++
      expected.text ++ " got " ++ found.text
  | fieldLength field expected found =>
    "Incorrect array length for StructArray field " ++ Text.quoted field ++ ", expected " ++
      toString expected ++ " got " ++ toString found
  | unmaskedNulls field =>
    "Found unmasked nulls for non-nullable StructArray field " ++ Text.quoted field
  | negativeSize list size =>
    list.text ++ " has a negative list_size " ++ toString size.toInt
  | unmaskedItems item list =>
    let place := (list.map fun type => " " ++ type.text).getD ""
    "non-nullable child of type " ++ item.text ++ " contains nulls not present in parent" ++ place
  | nullsInColumn column =>
    "Column '" ++ column ++ "' is declared as non-nullable but contains null values"
  | rowCount => "all columns in a record batch must have the specified row count"
  | columnType index expected found =>
    "column types must match schema types, expected " ++ expected.text ++ " but found " ++
      found.text ++ " at column index " ++ toString index
  | negativeLength length => "header length " ++ toString length.toInt ++ " is negative"
  | missingBits expected found =>
    toString found ++ " validity bits for " ++ toString expected ++ " rows"
  | missingSlots => "a part has too few slots for its rows"
  | reported _ text => text

def message (e : ColumnError) : String :=
  match e.category with
  | .invalidArgument => "Invalid argument error: " ++ e.text
  | .compute => "Compute error: " ++ e.text
  | .schema => "Schema error: " ++ e.text
  | .cast => "Cast error: " ++ e.text
  | .stream => "Ipc error: " ++ e.text
  | .notYetImplemented => "Not yet implemented: " ++ e.text
  | .divideByZero => "Divide by zero error"

end ColumnError

end SpatialColumns
