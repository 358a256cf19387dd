import SpatialColumns.Size
/-! # Memory pools

A pool counts the bytes that builders hold. A bounded pool refuses a request
that does not fit below its limit; an unbounded one grants every request and
counts modulo the number of sizes. A reservation is a number of bytes held
from a pool, which it returns when it is closed. -/

namespace SpatialColumns

/-- A pool refused a request. -/
structure AllocationError where
  requested : Nat
  available : Nat
  deriving DecidableEq, Repr

namespace AllocationError

def message (e : AllocationError) : String :=
  "requested " ++ toString e.requested ++ " bytes but only " ++ toString e.available ++
    " available"

end AllocationError

structure Pool where
  limit : Option Nat
  reserved : Nat := 0
  deriving DecidableEq, Repr

namespace Pool

def unbounded : Pool := { limit := none }

def bounded (limit : Nat) : Pool := { limit := some limit }

/-- The bytes that can still be reserved. -/
def available (p : Pool) : Nat := p.limit.getD Size.limit - p.reserved

/-- Reserves bytes, or refuses and changes nothing. -/
def reserve (p : Pool) (bytes : Nat) : Except AllocationError Pool :=
  match p.limit with
  | none => .ok { p with reserved := Size.wrappingAdd p.reserved bytes }
  | some limit =>
    if limit - p.reserved < bytes then .error ⟨bytes, limit - p.reserved⟩
    else .ok { p with reserved := p.reserved + bytes }

/-- Returns reserved bytes. -/
def release (p : Pool) (bytes : Nat) : Pool :=
  { p with reserved := Size.wrappingSub p.reserved bytes }

/-- The refusal of a request that is too large for a count. -/
def overflow (p : Pool) : AllocationError := ⟨Size.limit, p.available⟩

/-- The pool in diagnostics. -/
def text (p : Pool) : String :=
  match p.limit with
  | none => "UnboundedPool \x7b reserved: " ++ toString p.reserved ++ " \x7d"
  | some limit =>
    "BoundedPool \x7b limit: " ++ toString limit ++ ", reserved: " ++ toString p.reserved ++
      " \x7d"

@[simp] theorem release_limit (p : Pool) (bytes : Nat) : (p.release bytes).limit = p.limit := rfl

end Pool

/-- Bytes held from a pool. -/
structure Reservation where
  size : Nat
  deriving DecidableEq, Repr

namespace Reservation

/-- Reserves bytes from a pool. -/
def openIn (p : Pool) (bytes : Nat) : Except AllocationError (Reservation × Pool) :=
  match p.reserve bytes with
  | .ok p => .ok (⟨bytes⟩, p)
  | .error e => .error e

/-- Reserves more bytes. Nothing changes when the pool refuses, or when the
total would be too large for a count. -/
def grow (r : Reservation) (p : Pool) (bytes : Nat) :
    Except AllocationError (Reservation × Pool) :=
  match Size.add? r.size bytes with
  | none => .error p.overflow
  | some total =>
    match p.reserve bytes with
    | .ok p => .ok (⟨total⟩, p)
    | .error e => .error e

/-- Returns all bytes. -/
def close (r : Reservation) (p : Pool) : Pool := p.release r.size

end Reservation

end SpatialColumns
