import SpatialColumns.Kind
/-! # The registry

The datatypes of all registered kinds by name, from which a schema is made
when only the names of its columns are known. -/

namespace SpatialColumns

/-- The fields of the columns of a record batch. -/
abbrev Schema := List Field

namespace Registry

/-- Names and datatypes in registration order. -/
def entries : List (String × DataType) :=
  Kind.registered.map fun k => (k.codec.name, k.codec.datatype)

def names : List String := entries.map (·.1)

/-- The datatype registered under a name. -/
def datatypeFor (name : String) : Option DataType := entries.lookup name

/-- The field of a column that goes by a registered name. -/
def fieldFor (name : String) : Except Error Field :=
  match datatypeFor name with
  | some datatype => .ok (.required name datatype)
  | none => .error (.unknownComponent name)

/-- A schema with one column per name; the first name that is not registered
is an error. -/
def schemaFor (names : List String) : Except Error Schema := names.mapM fieldFor

end Registry

end SpatialColumns
