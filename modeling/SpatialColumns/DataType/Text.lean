import SpatialColumns.DataType
import SpatialColumns.Text.Quoted
/-! # Datatypes in diagnostics

The text of a datatype names every part that takes part in its equality. -/

namespace SpatialColumns

def UnionMode.text : UnionMode → String
  | .dense => "Dense"
  | .sparse => "Sparse"

/-- A record between braces. -/
def braced (body : String) : String := "\x7b" ++ body ++ "\x7d"

/-- Metadata entries between braces. -/
def metadataText (entries : List (String × String)) : String :=
  braced (", ".intercalate
    (entries.map fun e => Text.quoted e.1 ++ ": " ++ Text.quoted e.2))

mutual

def DataType.text (t : DataType) : String :=
  match t with
  | .null => "Null"
  | .scalar s => s.name
  | .fixedSizeList item size => "FixedSizeList(" ++ item.text ++ ", " ++ toString size ++ ")"
  | .list item => "List(" ++ item.text ++ ")"
  | .struct fields => "Struct([" ++ ", ".intercalate (Field.texts fields) ++ "])"
  | .union arms mode =>
    "Union([" ++ ", ".intercalate (Field.armTexts arms) ++ "], " ++ mode.text ++ ")"
  termination_by structural t

def Field.text (f : Field) : String :=
  match f with
  | ⟨name, type, nullable, metadata⟩ =>
    "Field " ++ braced (" name: " ++ Text.quoted name ++ ", data_type: " ++ type.text ++
      ", nullable: " ++ toString nullable ++
      ", dict_id: 0, dict_is_ordered: false, metadata: " ++ metadataText metadata ++ " ")
  termination_by structural f

def Field.texts (fs : List Field) : List String :=
  match fs with
  | [] => []
  | f :: fs => f.text :: Field.texts fs
  termination_by structural fs

def Field.armTexts (arms : List (Int8 × Field)) : List String :=
  match arms with
  | [] => []
  | (i, f) :: arms => ("(" ++ toString i ++ ", " ++ f.text ++ ")") :: Field.armTexts arms
  termination_by structural arms

end

end SpatialColumns
