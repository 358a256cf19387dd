/-! # Slots

A slot of a flat column holds a value or is null, and a null slot has bits too.
A reader that asks for the value finds none there; one that does not ask reads
the bits. -/

namespace SpatialColumns

inductive Slot (α : Type) where
  | value (a : α)
  /-- No value, and what lies there all the same. -/
  | null (raw : α)
  deriving DecidableEq, Repr

namespace Slot

variable {α : Type}

def isValue : Slot α → Bool
  | value _ => true
  | null _ => false

/-- The value of a slot, unless it is null. -/
def get? : Slot α → Option α
  | value a => some a
  | null _ => none

/-- What a slot holds when nobody asks whether it is null. -/
def raw : Slot α → α
  | value a => a
  | null raw => raw

/-- The slot of a value, or a null slot with a filler in it. -/
def ofOption (filler : α) : Option α → Slot α
  | some a => value a
  | none => null filler

@[simp] theorem isValue_value (a : α) : (value a).isValue = true := rfl

@[simp] theorem isValue_null (raw : α) : (null raw).isValue = false := rfl

@[simp] theorem get?_value (a : α) : (value a).get? = some a := rfl

@[simp] theorem get?_null (raw : α) : (null raw).get? = none := rfl

@[simp] theorem get?_ofOption (filler : α) (a : Option α) : (ofOption filler a).get? = a := by
  cases a <;> rfl

@[simp] theorem raw_value (a : α) : (value a).raw = a := rfl

@[simp] theorem raw_null (a : α) : (null a).raw = a := rfl

end Slot

end SpatialColumns
