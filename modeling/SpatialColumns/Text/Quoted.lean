import SpatialColumns.Text.Printable
/-! # Quoted text

Text inside diagnostics is quoted. The delimiter, the backslash and the named
control characters are written with a backslash, other characters that do not
show are written by code point, and all others stand for themselves. -/

namespace SpatialColumns.Text

/-- Lowercase digits of a number in base sixteen. -/
def hexDigits (n : Nat) : String := String.ofList (Nat.toDigits 16 n)

/-- One character between the given delimiters. -/
def escape (delimiter : Char) (c : Char) : String :=
  if c = delimiter || c = '\\' then String.ofList ['\\', c]
  else if c = '\t' then "\\t"
  else if c = '\r' then "\\r"
  else if c = '\n' then "\\n"
  else if c = '\x00' then "\\0"
  else if isPrintable c then c.toString
  else "\\u\x7b" ++ hexDigits c.toNat ++ "\x7d"

/-- A string in double quotes. -/
def quoted (s : String) : String :=
  "\"" ++ String.join (s.toList.map (escape '"')) ++ "\""

/-- A character in single quotes. -/
def quotedChar (c : Char) : String := "'" ++ escape '\'' c ++ "'"

end SpatialColumns.Text
