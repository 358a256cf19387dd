import SpatialColumns.Text.Quoted
/-! # Bytes as hexadecimal digits

Two lowercase digits per byte are written; digits of either case are read.
Text is read as its UTF-8 bytes, and an error names the first byte that is no
digit as the character of that code point. -/

namespace SpatialColumns.Text.Hex

/-- Why a text is not a number of bytes. -/
inductive HexError where
  | oddLength
  | invalidLength
  | invalidCharacter (byte : UInt8) (index : Nat)
  deriving DecidableEq, Repr

def HexError.message : HexError → String
  | oddLength => "odd number of digits"
  | invalidLength => "invalid string length"
  | invalidCharacter byte index =>
    "invalid character " ++ quotedChar (Char.ofNat byte.toNat) ++ " at position " ++
      toString index

/-- The lowercase digit of a number below sixteen. -/
def digit (n : Nat) : Char :=
  Char.ofNat (if n < 10 then '0'.toNat + n else 'a'.toNat + (n - 10))

/-- The two digits of a byte. -/
def encodeByte (b : UInt8) : List Char := [digit (b.toNat / 16), digit (b.toNat % 16)]

def encode (bytes : List UInt8) : List Char := bytes.flatMap encodeByte

/-- The number that a digit, given as a byte, stands for. -/
def digitValue? (b : UInt8) : Option Nat :=
  let n := b.toNat
  if '0'.toNat ≤ n ∧ n ≤ '9'.toNat then some (n - '0'.toNat)
  else if 'a'.toNat ≤ n ∧ n ≤ 'f'.toNat then some (n - 'a'.toNat + 10)
  else if 'A'.toNat ≤ n ∧ n ≤ 'F'.toNat then some (n - 'A'.toNat + 10)
  else none

/-- The UTF-8 bytes of a text. -/
def utf8 (chars : List Char) : List UInt8 := chars.flatMap String.utf8EncodeChar

/-- The bytes after one leading `0x` or `0X`, if there is one. -/
def stripMarker (bytes : List UInt8) : List UInt8 :=
  match bytes with
  | zero :: x :: rest =>
    if zero.toNat = '0'.toNat ∧ (x.toNat = 'x'.toNat ∨ x.toNat = 'X'.toNat) then rest
    else bytes
  | _ => bytes

/-- The values of digits, or the first byte that is none. -/
def digitValues (bytes : List UInt8) : Except HexError (List Nat) :=
  bytes.zipIdx.mapM fun (byte, index) =>
    match digitValue? byte with
    | some value => .ok value
    | none => .error (.invalidCharacter byte index)

/-- The bytes that pairs of digits stand for. -/
def joinPairs : List Nat → List UInt8
  | high :: low :: rest => UInt8.ofNat (16 * high + low) :: joinPairs rest
  | _ => []

/-- Reads `count` bytes. The number of text bytes is checked before the marker
is dropped, then the length, then the digits. -/
def decode (count : Nat) (bytes : List UInt8) : Except HexError (List UInt8) :=
  if bytes.length % 2 = 1 then .error .oddLength
  else
    let digits := stripMarker bytes
    if digits.length ≠ 2 * count then .error .invalidLength
    else (digitValues digits).map joinPairs

end SpatialColumns.Text.Hex
