import SpatialColumns.Decimal
/-! # JSON

The values of the JSON data format. An object keeps its members in the order
in which they are written, repeated keys included. A number keeps its exact
value and whether it is written as an integer. A string may name one half of a
surrogate pair without the other; such a string has no text. -/

namespace SpatialColumns

inductive Json where
  | null
  | bool (value : Bool)
  | integer (value : Int)
  | decimal (value : Decimal)
  | string (text : Option String)
  | array (items : List Json)
  | object (members : List (Option String × Json))

namespace Json

/-- An object whose keys are given as text. -/
def record (members : List (String × Json)) : Json :=
  object (members.map fun (key, value) => (some key, value))

end Json

end SpatialColumns
