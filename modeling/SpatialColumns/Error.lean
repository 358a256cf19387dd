import SpatialColumns.ColumnError
import SpatialColumns.DecodeError
import SpatialColumns.Pool
/-! # Errors

What can go wrong while columns are built or transported, each under any
number of locations. An error names its cause, and the chain of causes runs
from the outermost location to the innermost reason. -/

namespace SpatialColumns

/-- What is wrong with input. -/
inductive InputFault where
  /-- Two batches of one record batch have the same component name. -/
  | duplicateComponent (name : String)
  /-- A batch has more or fewer instances than the first one. -/
  | instanceCount (name : String) (found expected : Nat)
  /-- Any other fault, in the words of whoever finds it. -/
  | reported (text : String)
  deriving DecidableEq, Repr

def InputFault.text : InputFault → String
  | duplicateComponent name => "duplicate component " ++ name
  | instanceCount name found expected =>
    "component " ++ name ++ " has " ++ toString found ++ " instances, expected " ++
      toString expected
  | reported text => text

inductive Error where
  /-- A pool refused memory. -/
  | allocation (operation : String) (source : AllocationError)
  /-- A column could not be assembled. -/
  | column (operation : String) (source : ColumnError)
  /-- A builder was used after it failed. -/
  | poisoned (name : String)
  /-- A builder was used after it was sealed. -/
  | finalized (operation name : String)
  /-- The input is not consistent. -/
  | invalidInput (fault : InputFault)
  /-- No component goes by this name. -/
  | unknownComponent (name : String)
  /-- A column does not decode. -/
  | decoding (source : DecodeError)
  /-- Another error, and where it happened. -/
  | context (location : String) (source : Error)
  deriving DecidableEq

namespace Error

def message : Error → String
  | allocation operation source =>
    "allocation failed in " ++ operation ++ ": " ++ source.message
  | column operation source => "arrow error in " ++ operation ++ ": " ++ source.message
  | poisoned name => "builder for " ++ name ++ " failed earlier and must be discarded"
  | finalized operation name =>
    operation ++ " called on a finalized " ++ name ++ " builder"
  | invalidInput fault => "invalid input: " ++ fault.text
  | unknownComponent name => "unknown component: " ++ name
  | decoding source => "deserialization error: " ++ source.message
  | context location source => location ++ ": " ++ source.message

/-- The innermost error. -/
def root : Error → Error
  | context _ source => source.root
  | e => e

/-- The locations, outermost first. -/
def locations : Error → List String
  | context location source => location :: source.locations
  | _ => []

/-- Whether the innermost error is a refusal of memory. -/
def isAllocation (e : Error) : Bool :=
  match e.root with
  | allocation .. => true
  | _ => false

/-- Says where the errors of a step happened. -/
def within {α : Type} (location : String) : Except Error α → Except Error α
  | .error e => .error (context location e)
  | .ok a => .ok a

@[simp] theorem within_ok {α : Type} (location : String) (a : α) :
    within location (.ok a : Except Error α) = .ok a := rfl

@[simp] theorem within_error {α : Type} (location : String) (e : Error) :
    within location (.error e : Except Error α) = .error (context location e) := rfl

theorem within_eq_ok_iff {α : Type} {location : String} {result : Except Error α} {a : α} :
    within location result = .ok a ↔ result = .ok a := by
  cases result <;> simp

end Error

/-- Anything that can be the cause of an error. -/
inductive Cause where
  | error (e : Error)
  | allocation (e : AllocationError)
  | column (e : ColumnError)
  | decoding (e : DecodeError)
  deriving DecidableEq

namespace Cause

def message : Cause → String
  | error e => e.message
  | allocation e => e.message
  | column e => e.message
  | decoding e => e.message

/-- What this cause was in turn caused by. -/
def source? : Cause → Option Cause
  | error (.allocation _ source) => some (allocation source)
  | error (.column _ source) => some (column source)
  | error (.decoding source) => some (decoding source)
  | error (.context _ source) => some (error source)
  | decoding e => e.source?.map decoding
  | _ => none

end Cause

namespace Error

/-- An error and all its causes, outermost first. -/
def chain : Error → List Cause
  | context location source => .error (context location source) :: source.chain
  | allocation operation source => [.error (allocation operation source), .allocation source]
  | column operation source => [.error (column operation source), .column source]
  | decoding source => .error (decoding source) :: source.chain.map .decoding
  | e => [.error e]

end Error

end SpatialColumns
