import SpatialColumns.DataType.Text
/-! # Errors of decoding

The reasons why a column does not decode as values of some type, each under
any number of locations that say where in a nested column it lies. -/

namespace SpatialColumns

inductive DecodeError where
  /-- The column is not of the declared datatype. -/
  | datatypeMismatch (expected got : DataType)
  /-- A value that must be present is null. -/
  | missingData (datatype : String) (index : Nat)
  /-- A struct lacks a declared field. -/
  | missingStructField (datatype field : String)
  /-- A union entry names an arm without a meaning. -/
  | unknownUnionArm (datatype : String) (typeId : Int8)
  /-- A union entry points past the end of its arm. -/
  | offsetOutOfBounds (datatype : String) (offset length : Nat)
  /-- A row reaches past the end of a child. -/
  | slotOutOfRange (slot length : Nat)
  /-- A row of a list starts at a slot whose number does not fit 32 bits. -/
  | rowOutOfReach (row : Nat) (size : Int32)
  /-- Another error, and where it lies. -/
  | context (location : String) (source : DecodeError)
  deriving DecidableEq

namespace DecodeError

def message : DecodeError → String
  | datatypeMismatch expected got =>
    "expected datatype " ++ expected.text ++ ", got " ++ got.text
  | missingData datatype index =>
    "missing " ++ datatype ++ " value at index " ++ toString index
  | missingStructField datatype field =>
    "struct " ++ datatype ++ " is missing field " ++ Text.quoted field
  | unknownUnionArm datatype typeId =>
    "union " ++ datatype ++ " has no arm with type id " ++ toString typeId.toInt
  | offsetOutOfBounds datatype offset length =>
    "union " ++ datatype ++ " offset " ++ toString offset ++
      " out of bounds for child of length " ++ toString length
  | slotOutOfRange slot length =>
    "slot " ++ toString slot ++ " out of range for child of length " ++ toString length
  | rowOutOfReach row size =>
    "row " ++ toString row ++ " of lists of size " ++ toString size.toInt ++ " is out of reach"
  | context location source => location ++ ": " ++ source.message

/-- The innermost error. -/
def root : DecodeError → DecodeError
  | context _ source => source.root
  | e => e

/-- The locations, outermost first. -/
def locations : DecodeError → List String
  | context location source => location :: source.locations
  | _ => []

/-- Whether nothing but the fault is reported, and no reason. -/
def isUnexplained : DecodeError → Bool
  | slotOutOfRange .. => true
  | rowOutOfReach .. => true
  | context _ source => source.isUnexplained
  | _ => false

/-- The error that an error was caused by. -/
def source? : DecodeError → Option DecodeError
  | context _ source => some source
  | _ => none

/-- An error and all that it was caused by, outermost first. -/
def chain : DecodeError → List DecodeError
  | context location source => context location source :: source.chain
  | e => [e]

/-- Says where the errors of a decoding step lie. -/
def within {α : Type} (location : String) : Except DecodeError α → Except DecodeError α
  | .error e => .error (context location e)
  | .ok a => .ok a

@[simp] theorem within_ok {α : Type} (location : String) (a : α) :
    within location (.ok a : Except DecodeError α) = .ok a := rfl

@[simp] theorem within_error {α : Type} (location : String) (e : DecodeError) :
    within location (.error e : Except DecodeError α) = .error (context location e) := rfl

theorem within_eq_ok_iff {α : Type} {location : String} {result : Except DecodeError α} {a : α} :
    within location result = .ok a ↔ result = .ok a := by
  cases result <;> simp

end DecodeError

end SpatialColumns
