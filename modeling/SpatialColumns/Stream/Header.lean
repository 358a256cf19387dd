/-! # Stream headers

A stream opens with the length of its header and then the header itself. The
length is a signed 32-bit number, the least byte first. A length of -1 is a
marker, which the length proper follows. -/

namespace SpatialColumns.Stream

/-- The bytes of a length. -/
def lengthBytes (length : Int32) : List UInt8 :=
  let bits := length.toUInt32.toNat
  [UInt8.ofNat bits, UInt8.ofNat (bits / 0x100), UInt8.ofNat (bits / 0x10000),
    UInt8.ofNat (bits / 0x1000000)]

/-- The length at the start and the rest. -/
def takeLength? : List UInt8 → Option (Int32 × List UInt8)
  | a :: b :: c :: d :: rest =>
    let bits := a.toNat + 0x100 * b.toNat + 0x10000 * c.toNat + 0x1000000 * d.toNat
    some ((UInt32.ofNat bits).toInt32, rest)
  | _ => none

@[simp] theorem takeLength?_lengthBytes (length : Int32) (rest : List UInt8) :
    takeLength? (lengthBytes length ++ rest) = some (length, rest) := by
  have h := length.toUInt32.toNat_lt
  have hbits : UInt32.ofNat (length.toUInt32.toNat % 256 +
      256 * (length.toUInt32.toNat / 256 % 256) + 65536 * (length.toUInt32.toNat / 65536 % 256) +
      16777216 * (length.toUInt32.toNat / 16777216 % 256)) = length.toUInt32 := by
    rw [← UInt32.toNat_inj, UInt32.toNat_ofNat']
    omega
  simp [lengthBytes, takeLength?, hbits]

/-- Stands before a length. -/
def marker : Int32 := -1

/-- A header with its length in front of it. -/
def writeHeader (header : List UInt8) : List UInt8 :=
  lengthBytes marker ++ lengthBytes (Int32.ofNat header.length) ++ header

/-- The length of the header at the start and what follows the length. -/
def takeHeaderLength? (bytes : List UInt8) : Option (Int32 × List UInt8) := do
  let (length, rest) ← takeLength? bytes
  if length = marker then takeLength? rest else return (length, rest)

theorem takeHeaderLength?_writeHeader (header rest : List UInt8) :
    takeHeaderLength? (writeHeader header ++ rest) =
      some (Int32.ofNat header.length, header ++ rest) := by
  simp [takeHeaderLength?, writeHeader, List.append_assoc]

end SpatialColumns.Stream
