import SpatialColumns.Column
import SpatialColumns.Error
/-! # Codecs

A codec writes the values of a type, or their absence, to columns of one
datatype and reads them back. Writing goes through a column builder, which
takes one value after another and then finishes its column. Each step leaves
the builder for the next one behind, also a step that fails. -/

namespace SpatialColumns

structure Codec (α : Type) where
  /-- A column under construction. -/
  Builder : Type
  /-- The name that values of this type go by in transport. -/
  name : String
  datatype : DataType
  /-- The bytes that a builder takes before the first value. -/
  builderSize : Nat
  /-- The bytes that a value takes. -/
  elementSize : Nat
  withCapacity : (capacity : Nat) → Builder
  /-- The number of values taken. -/
  length : Builder → Nat
  /-- Takes a value or refuses it. -/
  append : Builder → Option α → Except Error Unit × Builder
  /-- The column of the values taken, if they make one up. -/
  finish : Builder → Except ColumnError Column × Builder
  /-- The values of a column, with nothing for an absent one. -/
  decode : Column → Except DecodeError (List (Option α))

namespace Codec

variable {α β : Type}

/-- The values of a list in which none is absent. -/
def allPresent (name : String) (values : List (Option α)) : Except DecodeError (List α) :=
  values.zipIdx.mapM fun (value, index) =>
    match value with
    | some value => .ok value
    | none => .error (.missingData name index)

/-- The values of a column without absent ones. -/
def decodeAll (c : Codec α) (column : Column) : Except DecodeError (List α) := do
  allPresent c.name (← c.decode column)

/-- A codec that stores values as those of another type, under a name of its own. -/
def component (c : Codec α) (name : String) (wrap : α → β) (unwrap : β → α) : Codec β where
  Builder := c.Builder
  name := name
  datatype := c.datatype
  builderSize := c.builderSize
  elementSize := c.elementSize
  withCapacity := c.withCapacity
  length := c.length
  append builder value := c.append builder (value.map unwrap)
  finish := c.finish
  decode column := (DecodeError.within name (c.decode column)).map (·.map (·.map wrap))

section Component

variable {c : Codec α} {name : String} {wrap : α → β} {unwrap : β → α} {column : Column}

theorem decode_component_of_ok {values : List (Option α)} (h : c.decode column = .ok values) :
    (c.component name wrap unwrap).decode column = .ok (values.map (Option.map wrap)) := by
  simp only [component, h]
  rfl

theorem decode_component_of_error {e : DecodeError} (h : c.decode column = .error e) :
    (c.component name wrap unwrap).decode column = .error (.context name e) := by
  simp only [component, h]
  rfl

theorem decode_component_eq_ok_iff {others : List (Option β)} :
    (c.component name wrap unwrap).decode column = .ok others ↔
      ∃ values, c.decode column = .ok values ∧ values.map (Option.map wrap) = others := by
  constructor
  · intro hothers
    cases h : c.decode column with
    | error e =>
        rw [decode_component_of_error h] at hothers
        cases hothers
    | ok values =>
        rw [decode_component_of_ok h] at hothers
        cases hothers
        exact ⟨values, rfl, rfl⟩
  · rintro ⟨values, h, rfl⟩
    exact decode_component_of_ok h

theorem decode_component_eq_error_iff {e : DecodeError} :
    (c.component name wrap unwrap).decode column = .error e ↔
      ∃ inner, c.decode column = .error inner ∧ .context name inner = e := by
  constructor
  · intro herror
    cases h : c.decode column with
    | error inner =>
        rw [decode_component_of_error h] at herror
        cases herror
        exact ⟨inner, rfl, rfl⟩
    | ok values =>
        rw [decode_component_of_ok h] at herror
        cases herror
  · rintro ⟨inner, h, rfl⟩
    exact decode_component_of_error h

/-- Values that are unwrapped and wrapped again. -/
theorem map_wrap_unwrap (hwrap : ∀ value, wrap (unwrap value) = value)
    (values : List (Option β)) :
    (values.map (Option.map unwrap)).map (Option.map wrap) = values := by
  simp [Function.comp_def, hwrap]

end Component

/-- The field that a column of these values has in a schema. -/
def field (c : Codec α) : Field := .required c.name c.datatype

end Codec

end SpatialColumns
