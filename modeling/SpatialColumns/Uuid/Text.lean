import SpatialColumns.Text.Hex
import SpatialColumns.Uuid
/-! # Identifiers as text

An identifier is written as lowercase digits in groups of eight, four, four,
four and twelve. Reading ignores dashes wherever they stand. -/

namespace SpatialColumns.Uuid

open Text.Hex (HexError)

/-- The text of an identifier. -/
def text (u : Uuid) : String :=
  let digits := Text.Hex.encode u.bytes.toList
  let group (start count : Nat) : List Char := (digits.drop start).take count
  String.ofList (group 0 8 ++ '-' :: (group 8 4 ++ '-' :: (group 12 4 ++ '-' ::
    (group 16 4 ++ '-' :: group 20 12))))

/-- The identifier with the given bytes, of which there must be sixteen. -/
def ofBytes? (bytes : List UInt8) : Except HexError Uuid :=
  if h : bytes.toArray.size = 16 then .ok ⟨⟨bytes.toArray, h⟩⟩ else .error .invalidLength

/-- Reads an identifier with or without dashes. -/
def parse (s : String) : Except HexError Uuid := do
  ofBytes? (← Text.Hex.decode 16 (Text.Hex.utf8 (s.toList.filter (· ≠ '-'))))

end SpatialColumns.Uuid
