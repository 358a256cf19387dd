import SpatialColumns.Column
/-! # Scalar columns under construction -/

namespace SpatialColumns

structure ScalarBuilder (kind : Scalar) where
  slots : Array (Slot kind.Value) := #[]

namespace ScalarBuilder

variable {kind : Scalar}

def withCapacity (capacity : Nat) : ScalarBuilder kind := ⟨Array.emptyWithCapacity capacity⟩

/-- Appends the slot of a value, or a null slot with a zero in it. -/
def push (b : ScalarBuilder kind) (value : Option kind.Value) : ScalarBuilder kind :=
  ⟨b.slots.push (.ofOption kind.zero value)⟩

def length (b : ScalarBuilder kind) : Nat := b.slots.size

/-- The column of the pushed slots and the builder for the next column. -/
def finish (b : ScalarBuilder kind) : Column × ScalarBuilder kind :=
  (.scalar kind b.slots.toList, {})

@[simp] theorem length_withCapacity (n : Nat) :
    (withCapacity n : ScalarBuilder kind).length = 0 := rfl

@[simp] theorem length_push (b : ScalarBuilder kind) (value : Option kind.Value) :
    (b.push value).length = b.length + 1 := by
  simp [length, push]

end ScalarBuilder

end SpatialColumns
