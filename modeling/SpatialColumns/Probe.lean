import SpatialColumns.BatchBuilder
import SpatialColumns.Column.Cast
import SpatialColumns.Column.ScalarBuilder
/-! # Codecs that probe the failure paths

Two codecs over integer columns whose failures are under the caller's control.
One refuses negative numbers and does not finish a column that holds thirteen.
The other stores values that take no memory of their own, and records the
capacity that its builder was given. -/

namespace SpatialColumns.Probe

/-- The values of a column of 64-bit integers. -/
def integers (c : Column) : Except DecodeError (List (Option Int64)) := do
  c.expect (.scalar .int64)
  return (← c.scalarSlots .int64).map Slot.get?

/-- A number that may be refused. -/
structure Faulty where
  number : Int64
  deriving DecidableEq, Repr

namespace Faulty

def refusal (value : Option Faulty) : Option Error :=
  value.bind fun v =>
    if v.number.toInt < 0 then
      some (.invalidInput (.reported ("faulty " ++ toString v.number.toInt)))
    else none

def codec : Codec Faulty where
  Builder := ScalarBuilder .int64
  name := "test.Faulty"
  datatype := .scalar .int64
  builderSize := 24
  elementSize := 8
  withCapacity := .withCapacity
  length := ScalarBuilder.length
  append b value :=
    match refusal value with
    | some e => (.error e, b)
    | none => (.ok (), b.push (value.map number))
  finish b :=
    if b.slots.contains (.value 13) then (.error (.reported .compute "unlucky"), b)
    else b.finish.map .ok id
  decode c := return (← integers c).map (·.map mk)

end Faulty

/-- The number of values taken, and the capacity that the builder was given. -/
structure UnitBuilder where
  count : Nat
  capacity : Nat

namespace UnitBuilder

def finish (b : UnitBuilder) : Column × UnitBuilder :=
  (.scalar .int64 (List.replicate b.count (.value (Int64.ofNat b.capacity))),
    { b with count := 0 })

end UnitBuilder

/-- A codec of values that take no memory; each counts as one byte. -/
def unitCodec : Codec Unit where
  Builder := UnitBuilder
  name := "test.Unit"
  datatype := .scalar .int64
  builderSize := 16
  elementSize := 1
  withCapacity := UnitBuilder.mk 0
  length := UnitBuilder.count
  append b _ := (.ok (), { b with count := b.count + 1 })
  finish b := b.finish.map .ok id
  decode c := return (← integers c).map (·.map fun _ => ())

end SpatialColumns.Probe
