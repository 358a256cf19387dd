import SpatialColumns.Codec
/-! # Batch builders

A batch builder is a column builder together with the memory it holds from a
pool and its place in a lifecycle: it is empty, then filling, and ends sealed
or poisoned. A poisoned builder refuses every further step, and a sealed one
has none. Filling reserves memory for the whole batch before it takes the
first value. -/

namespace SpatialColumns

inductive BuilderState where
  /-- No value was taken yet. -/
  | empty
  /-- Some values were taken. -/
  | filling
  /-- The column is finished; no further step is defined. -/
  | finalized
  /-- A step failed; the builder is of no further use. -/
  | poisoned
  deriving DecidableEq, Repr

def BuilderState.text : BuilderState → String
  | empty => "Empty"
  | filling => "Filling"
  | finalized => "Finalized"
  | poisoned => "Poisoned"

structure BatchBuilder {α : Type} (c : Codec α) where
  column : c.Builder
  state : BuilderState
  reservation : Reservation
  /-- The number of values that the reservation has room for. -/
  reservedElements : Nat

namespace BatchBuilder

variable {α : Type} {c : Codec α}

/-- The bytes that a number of values take. -/
def footprint (c : Codec α) (count : Nat) : Option Nat := Size.mul? count c.elementSize

/-- The bytes that a builder with room for a number of values takes. -/
def openingBytes (c : Codec α) (capacity : Nat) : Option Nat :=
  (footprint c capacity).bind fun bytes => Size.add? bytes c.builderSize

/-- A builder with room for `capacity` values. Memory is reserved for all of
them, even if the column builder makes room for fewer ahead of time. -/
def openIn (c : Codec α) (p : Pool) (capacity : Nat) :
    Except Error (BatchBuilder c × Pool) :=
  let opened :=
    match openingBytes c capacity with
    | some bytes => Reservation.openIn p bytes
    | none => .error p.overflow
  match opened with
  | .error e => .error (.context c.name (.allocation "new_array_builder" e))
  | .ok (reservation, p) =>
    .ok ({ column := c.withCapacity (min capacity Size.maxPresize)
           state := .empty
           reservation := reservation
           reservedElements := capacity }, p)

/-- The number of values taken. -/
def length (b : BatchBuilder c) : Nat := c.length b.column

def isEmpty (b : BatchBuilder c) : Bool := b.length == 0

/-- The bytes held from the pool. -/
def reservedBytes (b : BatchBuilder c) : Nat := b.reservation.size

/-- Refuses a step on a builder that is sealed or poisoned. -/
def usable (b : BatchBuilder c) (operation : String) : Except Error Unit :=
  match b.state with
  | .finalized => .error (.finalized operation c.name)
  | .poisoned => .error (.poisoned c.name)
  | .empty => .ok ()
  | .filling => .ok ()

/-- The number of values, out of `count` more, for which there is no room yet. -/
def shortfall (b : BatchBuilder c) (count : Nat) : Nat :=
  Size.saturatingAdd b.length count - b.reservedElements

/-- Makes room for `count` more values. -/
def reserve (b : BatchBuilder c) (p : Pool) (count : Nat) :
    Except Error (BatchBuilder c × Pool) :=
  let needed := b.shortfall count
  if needed = 0 then .ok (b, p)
  else
    let grown :=
      match footprint c needed with
      | some bytes => b.reservation.grow p bytes
      | none => .error p.overflow
    match grown with
    | .error e => .error (.allocation "fill_array_builder" e)
    | .ok (reservation, p) =>
      .ok ({ b with
              reservation := reservation
              reservedElements := b.reservedElements + needed }, p)

/-- Takes values up to the first one that is refused. -/
def appendAll (c : Codec α) (column : c.Builder) :
    List (Option α) → Except Error Unit × c.Builder
  | [] => (.ok (), column)
  | value :: values =>
    match c.append column value with
    | (.error e, column) => (.error e, column)
    | (.ok (), column) => appendAll c column values

/-- Takes a batch of values, absent ones included. -/
def extendOpt (b : BatchBuilder c) (p : Pool) (values : List (Option α)) :
    Except Error Unit × BatchBuilder c × Pool :=
  match b.usable "fill" with
  | .error e => (.error e, b, p)
  | .ok () =>
    match b.reserve p values.length with
    | .error e => (.error (.context c.name e), { b with state := .poisoned }, p)
    | .ok (b, p) =>
      match appendAll c b.column values with
      | (.error e, column) =>
        (.error (.context c.name e), { b with column := column, state := .poisoned }, p)
      | (.ok (), column) =>
        (.ok (), { b with
          column := column
          state := if c.length column = 0 then b.state else .filling }, p)

/-- Takes a batch of values. -/
def extend (b : BatchBuilder c) (p : Pool) (values : List α) :
    Except Error Unit × BatchBuilder c × Pool :=
  b.extendOpt p (values.map some)

/-- Seals the builder. -/
def finish (b : BatchBuilder c) : Except Error Column × BatchBuilder c :=
  match b.usable "finish" with
  | .error e => (.error e, b)
  | .ok () =>
    match c.finish b.column with
    | (.ok sealed, column) => (.ok sealed, { b with column := column, state := .finalized })
    | (.error e, column) =>
      (.error (.context c.name (.column "finish" e)),
        { b with column := column, state := .poisoned })

/-- Returns the memory of a builder that is no longer needed. -/
def close (b : BatchBuilder c) (p : Pool) : Pool := b.reservation.close p

/-- The builder in diagnostics. -/
def text (b : BatchBuilder c) : String :=
  "BatchBuilder \x7b name: \"" ++ c.name ++ "\", state: " ++ b.state.text ++ ", len: " ++
    toString b.length ++ ", reserved_bytes: " ++ toString b.reservedBytes ++ " \x7d"

end BatchBuilder

namespace Codec

variable {α : Type}

/-- The column of a list of values, absent ones included, built with memory
from a pool, and the pool afterwards. -/
def encodeOptIn (c : Codec α) (p : Pool) (values : List (Option α)) :
    Except Error Column × Pool :=
  match BatchBuilder.openIn c p values.length with
  | .error e => (.error e, p)
  | .ok (b, p) =>
    match b.extendOpt p values with
    | (.error e, b, p) => (.error e, b.close p)
    | (.ok (), b, p) =>
      let (result, b) := b.finish
      (result, b.close p)

/-- The column of a list of values, built with memory from a pool, and the
pool afterwards. -/
def encodeIn (c : Codec α) (p : Pool) (values : List α) : Except Error Column × Pool :=
  c.encodeOptIn p (values.map some)

/-- The column of a list of values, absent ones included. -/
def encodeOpt (c : Codec α) (values : List (Option α)) : Except Error Column :=
  (c.encodeOptIn .unbounded values).1

/-- The column of a list of values. -/
def encode (c : Codec α) (values : List α) : Except Error Column :=
  (c.encodeIn .unbounded values).1

end Codec

end SpatialColumns
