import SpatialColumns.Binary32
import SpatialColumns.Decimal
import SpatialColumns.Json
/-! # Types with a JSON form

A form says how values of a type are written as JSON and which JSON is read
back. Records are read from objects and from arrays alike: an object may have
further keys and an array has exactly one item per key. -/

namespace SpatialColumns

class JsonForm (α : Type) where
  toJson : α → Json
  ofJson? : Json → Option α

export JsonForm (toJson ofJson?)

namespace Json

/-- A value through its number; a number that is not finite has no numeral. -/
def ofBinary32 (x : Binary32) : Json := if x.isFinite then decimal x.toDecimal else null

/-- The absolute value of an integer with the bits that are kept of it: all of
them if the integer fits in 64 bits, with or without a sign, and 53 of them if
only its absolute value does. -/
def keptDigits (n : Int) : Nat :=
  if n < 0 ∧ 1 <<< 63 < n.natAbs ∧ n.natAbs < 1 <<< 64
  then roundHalfEven n.natAbs (1 <<< 11) <<< 11 else n.natAbs

/-- The single-precision number nearest to a number, unless that is an infinity. -/
def binary32? : Json → Option Binary32
  | integer n => Decimal.toBinary32? ⟨n < 0, keptDigits n, 0⟩
  | decimal d => d.toBinary32?
  | _ => none

/-- An integer that fits in a byte. -/
def byte? : Json → Option UInt8
  | integer n => if 0 ≤ n ∧ n < 256 then some (UInt8.ofNat n.toNat) else none
  | _ => none

/-- The value under a key, nothing if it is missing. A key may not be repeated. -/
def memberAt? (members : List (Option String × Json)) (key : String) :
    Option (Option Json) :=
  match members.filter fun entry => entry.1 = some key with
  | [] => some none
  | [entry] => some (some entry.2)
  | _ => none

/-- The values under the keys of a record, in their order. -/
def fields? (keys : List String) : Json → Option (List (Option Json))
  | array items => if items.length = keys.length then some (items.map some) else none
  | object members =>
    if members.all (·.1.isSome) then keys.mapM (memberAt? members) else none
  | _ => none

/-- The only member of an object. -/
def variant? : Json → Option (String × Json)
  | object [(some name, payload)] => some (name, payload)
  | _ => none

end Json

variable {α : Type} [JsonForm α]

instance : JsonForm Binary32 := ⟨Json.ofBinary32, Json.binary32?⟩

instance : JsonForm UInt8 := ⟨fun byte => .integer byte.toNat, Json.byte?⟩

instance : JsonForm Bool where
  toJson := .bool
  ofJson?
    | .bool value => some value
    | _ => none

instance : JsonForm (Option α) where
  toJson
    | none => .null
    | some a => toJson a
  ofJson?
    | .null => some none
    | j => (ofJson? j).map some

theorem ofJson?_option_of_ne_null {j : Json} (h : j ≠ .null) :
    (ofJson? j : Option (Option α)) = (ofJson? j).map some := by
  cases j with
  | null => exact absurd rfl h
  | _ => rfl

instance {n : Nat} : JsonForm (Vector α n) where
  toJson v := .array (v.toList.map toJson)
  ofJson?
    | .array items => do
      let values := (← items.mapM ofJson?).toArray
      if h : values.size = n then some ⟨values, h⟩ else none
    | _ => none

namespace JsonForm

/-- The value of a field that has to be there. -/
def required? (field : Option Json) : Option α := field.bind ofJson?

/-- The value of a field that may be missing or null. -/
def optional? : Option Json → Option (Option α)
  | none => some none
  | some j => ofJson? j

/-- The form of a type whose values are those of another. -/
@[reducible] def via {β : Type} (unwrap : β → α) (wrap : α → β) : JsonForm β where
  toJson b := toJson (unwrap b)
  ofJson? j := (ofJson? j).map wrap

end JsonForm

end SpatialColumns
