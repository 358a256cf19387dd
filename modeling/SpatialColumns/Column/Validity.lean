import SpatialColumns.Column
import SpatialColumns.Size
/-! # Validity under construction

One bit per row of a nested column. A column without nulls is sealed without
any bits. -/

namespace SpatialColumns

structure ValidityBuilder where
  bits : Array Bool := #[]

namespace ValidityBuilder

def withCapacity (capacity : Nat) : ValidityBuilder := ⟨Array.emptyWithCapacity capacity⟩

/-- A builder with room for `capacity` rows, a byte each, if there can be so many bytes. -/
def withCapacity? (capacity : Nat) : Option ValidityBuilder :=
  (Size.room? capacity capacity).map withCapacity

def push (b : ValidityBuilder) (valid : Bool) : ValidityBuilder := ⟨b.bits.push valid⟩

def length (b : ValidityBuilder) : Nat := b.bits.size

/-- The bits in row order, or none when every row is valid. -/
def sealed (b : ValidityBuilder) : Option (List Bool) :=
  if b.bits.all id then none else some b.bits.toList

/-- The sealed bits and the builder for the next column. -/
def finish (b : ValidityBuilder) : Option (List Bool) × ValidityBuilder := (b.sealed, {})

@[simp] theorem length_withCapacity (n : Nat) : (withCapacity n).length = 0 := rfl

@[simp] theorem length_push (b : ValidityBuilder) (valid : Bool) :
    (b.push valid).length = b.length + 1 := by
  simp [length, push]

end ValidityBuilder

end SpatialColumns
