import SpatialColumns.BatchBuilder
/-! # Sessions

A session holds several pools and, under names, builders and reservations that
draw on them. Each step touches one builder, one reservation or one pool, and
answers with what it did. A builder or reservation that a new one replaces is
closed only after the new one is open. -/

namespace SpatialColumns

/-- The codecs that a session works with. -/
structure CodecFamily where
  Kind : Type
  Value : Kind → Type
  codec : (k : Kind) → Codec (Value k)

/-- A builder and the number of the pool that it draws on. -/
structure LiveBuilder (F : CodecFamily) where
  pool : Nat
  kind : F.Kind
  builder : BatchBuilder (F.codec kind)

/-- A reservation and the number of the pool that it draws on. -/
structure LiveReservation where
  pool : Nat
  reservation : Reservation

structure Session (F : CodecFamily) where
  pools : List Pool
  builders : List (String × LiveBuilder F) := []
  reservations : List (String × LiveReservation) := []

/-- What a step reports. -/
inductive Answer where
  | done
  | noSuchId
  | failed (e : Error)
  | refused (e : AllocationError)
  | sealed (column : Column)
  | text (text : String)
  | length (length : Nat)
  | size (size : Nat)
  | grown (refusal : Option AllocationError) (size reserved : Nat)

inductive Step (F : CodecFamily) where
  | openBuilder (id : String) (pool : Nat) (kind : F.Kind) (capacity : Nat)
  /-- Extends a builder by a batch, given in the terms of whichever kind it has. -/
  | extend (id : String) (values : (k : F.Kind) → List (Option (F.Value k)))
  | finish (id : String)
  | describe (id : String)
  | closeBuilder (id : String)
  | encode (pool : Nat) (kind : F.Kind) (values : List (Option (F.Value kind)))
  | reserve (pool bytes : Nat)
  | release (pool bytes : Nat)
  | describePool (pool : Nat)
  | openReservation (id : String) (pool bytes : Nat)
  | growReservation (id : String) (bytes : Nat)
  | closeReservation (id : String)

namespace Session

variable {F : CodecFamily}

/-- The entries with one name bound anew. -/
def bind {α : Type} (id : String) (value : α) (entries : List (String × α)) :
    List (String × α) :=
  (id, value) :: entries.filter (·.1 ≠ id)

def unbind {α : Type} (id : String) (entries : List (String × α)) : List (String × α) :=
  entries.filter (·.1 ≠ id)

def builder? (s : Session F) (id : String) : Option (LiveBuilder F) := s.builders.lookup id

def setPool (s : Session F) (pool : Nat) (p : Pool) : Session F :=
  { s with pools := s.pools.set pool p }

/-- Returns bytes to a pool. -/
def giveBack (s : Session F) (pool bytes : Nat) : Session F :=
  { s with pools := s.pools.modify pool (·.release bytes) }

/-- Closes a builder, if there is one by this name. -/
def closeBuilder (s : Session F) (id : String) : Session F :=
  match s.builders.lookup id with
  | some live =>
    { s.giveBack live.pool live.builder.reservedBytes with builders := unbind id s.builders }
  | none => s

/-- Closes a reservation, if there is one by this name. -/
def closeReservation (s : Session F) (id : String) : Session F :=
  match s.reservations.lookup id with
  | some live =>
    { s.giveBack live.pool live.reservation.size with
      reservations := unbind id s.reservations }
  | none => s

/-- Puts a builder under a name in place of the one that had it. -/
def bindBuilder (s : Session F) (id : String) (live : LiveBuilder F) : Session F :=
  { s with builders := bind id live s.builders }

/-- Puts a reservation under a name in place of the one that had it. -/
def bindReservation (s : Session F) (id : String) (live : LiveReservation) : Session F :=
  { s with reservations := bind id live s.reservations }

def answerOf (result : Except Error Unit) : Answer :=
  match result with
  | .ok () => .done
  | .error e => .failed e

/-- A step on a pool by its number. -/
def onPool (s : Session F) (pool : Nat) (act : Pool → Answer × Session F) : Answer × Session F :=
  match s.pools[pool]? with
  | some p => act p
  | none => (.noSuchId, s)

/-- A step on a builder by its name. -/
def onBuilder (s : Session F) (id : String) (act : LiveBuilder F → Answer × Session F) :
    Answer × Session F :=
  match s.builders.lookup id with
  | some live => act live
  | none => (.noSuchId, s)

/-- A step on a reservation by its name. -/
def onReservation (s : Session F) (id : String) (act : LiveReservation → Answer × Session F) :
    Answer × Session F :=
  match s.reservations.lookup id with
  | some live => act live
  | none => (.noSuchId, s)

def step (s : Session F) : Step F → Answer × Session F
  | .openBuilder id pool kind capacity => s.onPool pool fun p =>
    match BatchBuilder.openIn (F.codec kind) p capacity with
    | .error e => (.failed e, s)
    | .ok (b, p) => (.done, ((s.setPool pool p).closeBuilder id).bindBuilder id ⟨pool, kind, b⟩)
  | .extend id values => s.onBuilder id fun live => s.onPool live.pool fun p =>
    let (result, b, p) := live.builder.extendOpt p (values live.kind)
    (answerOf result, (s.setPool live.pool p).bindBuilder id ⟨live.pool, live.kind, b⟩)
  | .finish id => s.onBuilder id fun live =>
    let (result, b) := live.builder.finish
    let s := s.bindBuilder id ⟨live.pool, live.kind, b⟩
    match result with
    | .ok column => (.sealed column, s)
    | .error e => (.failed e, s)
  | .describe id => s.onBuilder id fun live => (.text live.builder.text, s)
  | .closeBuilder id => s.onBuilder id fun _ => (.done, s.closeBuilder id)
  | .encode pool kind values => s.onPool pool fun p =>
    match (F.codec kind).encodeOptIn p values with
    | (.ok column, p) => (.length column.length, s.setPool pool p)
    | (.error e, p) => (.failed e, s.setPool pool p)
  | .reserve pool bytes => s.onPool pool fun p =>
    match p.reserve bytes with
    | .ok p => (.done, s.setPool pool p)
    | .error e => (.refused e, s)
  | .release pool bytes => s.onPool pool fun _ => (.done, s.giveBack pool bytes)
  | .describePool pool => s.onPool pool fun p => (.text p.text, s)
  | .openReservation id pool bytes => s.onPool pool fun p =>
    match Reservation.openIn p bytes with
    | .error e => (.refused e, s)
    | .ok (r, p) =>
      (.size r.size, ((s.setPool pool p).closeReservation id).bindReservation id ⟨pool, r⟩)
  | .growReservation id bytes => s.onReservation id fun live => s.onPool live.pool fun p =>
    match live.reservation.grow p bytes with
    | .error e => (.grown (some e) live.reservation.size p.reserved, s)
    | .ok (r, p) =>
      (.grown none r.size p.reserved,
        (s.setPool live.pool p).bindReservation id ⟨live.pool, r⟩)
  | .closeReservation id => s.onReservation id fun _ => (.done, s.closeReservation id)

/-- Closes every builder and every reservation. -/
def closeAll (s : Session F) : Session F :=
  let s := s.builders.foldl (fun s entry => s.closeBuilder entry.1) s
  s.reservations.foldl (fun s entry => s.closeReservation entry.1) s

end Session

end SpatialColumns
