import SpatialColumns.Json
/-! # JSON numerals

A numeral is a sign, digits without a needless zero in front, a fraction and
an exponent. It is an integer when it has neither fraction nor exponent. Zero
with a sign is no integer, because the sign would be lost.

Digits are read one by one up to a limit that no number halfway between two
neighbouring single-precision values reaches beyond. One digit stands for all
further ones: it puts a numeral off every such number, always away from zero. -/

namespace SpatialColumns.Json

/-- The number that decimal digits stand for. -/
def valueOfDigits (digits : List Char) : Nat :=
  digits.foldl (fun value c => 10 * value + (c.toNat - '0'.toNat)) 0

/-- The digits at the start, of which there must be one, and the rest. -/
def takeDigits? (chars : List Char) : Option (List Char × List Char) :=
  match chars.span Char.isDigit with
  | ([], _) => none
  | (digits, rest) => some (digits, rest)

/-- The sign at the start and the rest. -/
def takeSign : List Char → Bool × List Char
  | '-' :: rest => (true, rest)
  | chars => (false, chars)

/-- The digits of the integral part and the rest. -/
def takeWhole? (chars : List Char) : Option (List Char × List Char) :=
  match takeDigits? chars with
  | some ('0' :: _ :: _, _) => none
  | other => other

/-- The digits of the fraction, if there is one, and the rest. -/
def takeFraction? : List Char → Option (List Char × List Char)
  | '.' :: rest => takeDigits? rest
  | chars => some ([], chars)

/-- The digits of an exponent with a sign of either kind, and the rest. -/
def takeSigned? : List Char → Option (Int × List Char)
  | '+' :: rest => (takeDigits? rest).map fun (digits, rest) => (valueOfDigits digits, rest)
  | '-' :: rest => (takeDigits? rest).map fun (digits, rest) => (-valueOfDigits digits, rest)
  | chars => (takeDigits? chars).map fun (digits, rest) => (valueOfDigits digits, rest)

/-- The exponent, if there is one, and the rest. -/
def takeExponent? : List Char → Option (Option Int × List Char)
  | 'e' :: rest => (takeSigned? rest).map fun (exponent, rest) => (some exponent, rest)
  | 'E' :: rest => (takeSigned? rest).map fun (exponent, rest) => (some exponent, rest)
  | chars => some (none, chars)

/-- The most digits that are read one by one. -/
def digitLimit : Nat := 113

/-- The digits of a fraction without the zeros at the end. -/
def dropTrailingZeros (fraction : List Char) : List Char :=
  (fraction.reverse.dropWhile (· == '0')).reverse

/-- The digits that are read, zeros in front apart, and how many at the end are
left out. A 1 takes the place of the first digit beyond the limit, also if all
digits from there on are zeros. -/
def clipDigits (digits : List Char) : List Char × Nat :=
  let significant := digits.dropWhile (· == '0')
  if significant.length ≤ digitLimit then (significant, 0)
  else (significant.take digitLimit ++ ['1'], significant.length - (digitLimit + 1))

/-- The number that is read for digits around a decimal point and an exponent. -/
def decimalOfParts (negative : Bool) (whole fraction : List Char) (exponent : Int) : Decimal :=
  let fraction := dropTrailingZeros fraction
  let (digits, clipped) := clipDigits (whole ++ fraction)
  ⟨negative, valueOfDigits digits, exponent - fraction.length + clipped⟩

/-- The number that the parts of a numeral stand for. -/
def ofParts (negative : Bool) (whole fraction : List Char) (exponent : Option Int) : Json :=
  let digits := valueOfDigits whole
  if fraction = [] ∧ exponent = none ∧ ¬(negative = true ∧ digits = 0) then
    integer (if negative then -digits else digits)
  else decimal (decimalOfParts negative whole fraction (exponent.getD 0))

/-- The number that a numeral stands for. -/
def ofNumeral? (chars : List Char) : Option Json := do
  let (negative, chars) := takeSign chars
  let (whole, chars) ← takeWhole? chars
  let (fraction, chars) ← takeFraction? chars
  let (exponent, chars) ← takeExponent? chars
  if chars.isEmpty then return ofParts negative whole fraction exponent else none

end SpatialColumns.Json
