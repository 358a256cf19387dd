import SpatialColumns.Column.Restore
import SpatialColumns.Proofs.BatchBuilder.Reservation
import SpatialColumns.Proofs.Codec.Lawful

/-!
# Sound codecs

A codec may refuse values, and may fail to make a column of those that it has taken. It is
sound if that is all: where a column is made it is the one of the values taken. It has the
codec's datatype and children that fit their fields, a reader that restores it leaves it as it
is and, if it is addressable, it reads back as the values.
Nothing is said about how many values there are.
-/

namespace SpatialColumns

namespace Codec

variable {α β : Type}

/-- A column of the codec's datatype whose children fit their fields, which is restored as it is
and reads as a list of values if it is addressable. -/
structure Keeps (c : Codec α) (values : List (Option α)) (column : Column) : Prop where
  decode (haddressable : column.Throughout Column.Addressable) : c.decode column = .ok values
  restored : column.restored = .ok column
  datatype : column.datatype = c.datatype
  typed : column.Throughout Column.Typed

/-- The builder that has taken a list of values, and the column that it makes if it makes one. -/
structure Sound (c : Codec α) (holding : List (Option α) → c.Builder)
    (column : List (Option α) → Column) : Prop where
  withCapacity (capacity : Nat) : c.withCapacity capacity = holding []
  append_ok {values : List (Option α)} {value : Option α} {next : c.Builder}
    (happend : c.append (holding values) value = (.ok (), next)) :
    next = holding (values ++ [value])
  finish_ok {values : List (Option α)} {made : Column} {left : c.Builder}
    (hfinish : c.finish (holding values) = (.ok made, left)) :
    made = column values ∧ c.Keeps values (column values)

variable {c : Codec α} {holding : List (Option α) → c.Builder}
  {column : List (Option α) → Column}

/-- A codec that is lawful for lists of every length is sound if its columns are restored and
their children fit. -/
theorem Total.sound (h : c.Total holding column)
    (hrestored : ∀ values, (column values).restored = .ok (column values))
    (htyped : ∀ values, (column values).Throughout Column.Typed) :
    c.Sound holding column where
  withCapacity := h.withCapacity
  append_ok {values value next} happend := by
    rw [h.append] at happend
    cases happend
    rfl
  finish_ok {values made left} hfinish := by
    rw [h.finish] at hfinish
    cases hfinish
    exact ⟨rfl, h.decode values, hrestored values, h.column_datatype values, htyped values⟩

namespace Sound

/-- A codec that wraps another one's values makes the same columns. -/
theorem component (h : c.Sound holding column) {name : String} {wrap : α → β}
    {unwrap : β → α} (hwrap : ∀ value, wrap (unwrap value) = value) :
    (c.component name wrap unwrap).Sound
      (fun values => holding (values.map (Option.map unwrap)))
      (fun values => column (values.map (Option.map unwrap))) where
  withCapacity := h.withCapacity
  append_ok {values value next} happend := by
    rw [List.map_append]
    exact h.append_ok happend
  finish_ok {values made left} hfinish := by
    obtain ⟨hmade, hkeeps⟩ := h.finish_ok hfinish
    refine ⟨hmade, fun haddressable => ?_, hkeeps.restored, hkeeps.datatype, hkeeps.typed⟩
    rw [decode_component_of_ok (hkeeps.decode haddressable), map_wrap_unwrap hwrap]

/-- A batch that is taken adds its values. -/
theorem appendAll (h : c.Sound holding column) {values more : List (Option α)} {last : c.Builder}
    (happend : BatchBuilder.appendAll c (holding values) more = (.ok (), last)) :
    last = holding (values ++ more) := by
  induction more generalizing values with
  | nil =>
      cases happend
      rw [List.append_nil]
  | cons value more ih =>
      rw [BatchBuilder.appendAll] at happend
      rcases hvalue : c.append (holding values) value with ⟨_ | _, next⟩
      · rw [hvalue] at happend
        cases happend
      · rw [hvalue] at happend
        obtain rfl := h.append_ok hvalue
        rw [ih happend, List.append_assoc, List.singleton_append]

end Sound

end Codec

namespace BatchBuilder

variable {α : Type} {c : Codec α} {b left : BatchBuilder c} {p q : Pool}

/-- A fill that takes its batch has appended all of its values. -/
theorem appendAll_of_extendOpt {values : List (Option α)}
    (hextend : b.extendOpt p values = (.ok (), left, q)) :
    appendAll c b.column values = (.ok (), left.column) := by
  have hextension := extendOpt_extension b p values
  rw [hextend] at hextension
  cases hextension with
  | taken _ hreserve happend => rwa [(column_of_reserve hreserve).1] at happend

/-- The column of a builder that is sealed is the one that the codec makes. -/
theorem finish_of_ok {made : Column} (hmade : b.finish.1 = .ok made) :
    ∃ last, c.finish b.column = (.ok made, last) := by
  have hsealing := finish_sealing b
  generalize b.finish = result at hmade hsealing
  cases hsealing with
  | unusable => cases hmade
  | failed => cases hmade
  | finished _ hfinish =>
      cases hmade
      exact ⟨_, hfinish⟩

end BatchBuilder

open BatchBuilder in
/-- A list that is encoded is kept by its column. -/
theorem Codec.Sound.keeps_of_encodeOptIn {α : Type} {c : Codec α}
    {holding : List (Option α) → c.Builder} {column : List (Option α) → Column}
    (h : c.Sound holding column) {p : Pool} {values : List (Option α)} {made : Column}
    (hencode : (c.encodeOptIn p values).1 = .ok made) : c.Keeps values made := by
  unfold encodeOptIn at hencode
  rw [openIn_eq] at hencode
  cases hraise : p.raise 0 (bytesFor c values.length) with
  | error e =>
      rw [hraise] at hencode
      cases hencode
  | ok q =>
      simp only [hraise] at hencode
      rcases hextend : (fresh c values.length).extendOpt q values with ⟨_ | _, b, r⟩
      · rw [hextend] at hencode
        cases hencode
      · rw [hextend] at hencode
        have happend := appendAll_of_extendOpt hextend
        rw [fresh, h.withCapacity] at happend
        have hcolumn : b.column = holding values := h.appendAll happend
        obtain ⟨last, hfinish⟩ := finish_of_ok hencode
        rw [hcolumn] at hfinish
        obtain ⟨rfl, hkeeps⟩ := h.finish_ok hfinish
        exact hkeeps

end SpatialColumns
