import SpatialColumns.Proofs.BatchBuilder.Encoding
import SpatialColumns.Proofs.Codec.RoundTrip

/-!
# Components on the wire

A component goes through the builder and the decoder of the datatype that it wraps, so in a
column nothing is left to tell one from the other. Only errors do. A column that cannot be read
is reported with the component's name around what the datatype reports. An absent value that
must not be absent is found by the component itself and reported under its name alone.
-/

namespace SpatialColumns

open DenseUnion (maxOffset)

namespace Codec

variable {α β : Type}

/-- What a column reads as, to a component and to the datatype inside it. -/
inductive ReadsAlike (component : Codec β) (inner : Codec α) (wrap : α → β) (column : Column) :
    Prop
  /-- Neither reads it, and the component's name is one more location. -/
  | unreadable (e : DecodeError) (hinner : inner.decode column = .error e)
      (hinnerAll : inner.decodeAll column = .error e)
      (hdecode : component.decode column = .error (.context component.name e))
      (hdecodeAll : component.decodeAll column = .error (.context component.name e))
  /-- Both read it, and no value is absent. -/
  | present (values : List α) (hinner : inner.decode column = .ok (values.map some))
      (hinnerAll : inner.decodeAll column = .ok values)
      (hdecode : component.decode column = .ok ((values.map wrap).map some))
      (hdecodeAll : component.decodeAll column = .ok (values.map wrap))
  /-- Both read it, but some values are absent. Where none may be, each reports the first one
  under its own name. -/
  | absent (values : List (Option α)) (index : Nat) (hindex : values[index]? = some none)
      (hfirst : ∀ earlier < index, values[earlier]? ≠ some none)
      (hinner : inner.decode column = .ok values)
      (hinnerAll : inner.decodeAll column = .error (.missingData inner.name index))
      (hdecode : component.decode column = .ok (values.map (Option.map wrap)))
      (hdecodeAll : component.decodeAll column = .error (.missingData component.name index))

/-- A component whose columns are those of the datatype inside it, written and read. -/
structure Transparent (component : Codec β) (inner : Codec α) (wrap : α → β) (unwrap : β → α) :
    Prop where
  wrap_unwrap (value : β) : wrap (unwrap value) = value
  unwrap_wrap (value : α) : unwrap (wrap value) = value
  /-- Values are written as the values inside them, or fail for the same reason, which each
  reports under its own name. -/
  written (values : List (Option β)) : ∃ result,
    component.encodeOpt values = Error.within component.name result ∧
    inner.encodeOpt (values.map (Option.map unwrap)) = Error.within inner.name result
  /-- As many values as an offset can count are written. Each reads what the other wrote, if all
  rows of lists in it start in time, as they do for up to `2 ^ 27` values, and only then. -/
  exchanged (values : List (Option β)) (hlength : values.length ≤ 2 ^ 31 - 1) : ∃ column,
    component.encodeOpt values = .ok column ∧
    inner.encodeOpt (values.map (Option.map unwrap)) = .ok column ∧
    (values.length ≤ 2 ^ 27 → column.Throughout Column.Addressable) ∧
    (component.decode column = .ok values ↔ column.Throughout Column.Addressable) ∧
    (inner.decode column = .ok (values.map (Option.map unwrap)) ↔
      column.Throughout Column.Addressable)
  /-- Every column is read alike, whatever it holds. -/
  readsAlike (column : Column) : component.ReadsAlike inner wrap column

variable {c : Codec α} {d : Codec β}

/-! ## Reading -/

theorem decodeAll_of_error {column : Column} {e : DecodeError}
    (h : c.decode column = .error e) : c.decodeAll column = .error e := by
  rw [decodeAll, h]
  rfl

/-- Every column reads alike to a component and to the datatype inside it. -/
theorem readsAlike_component (name : String) (wrap : α → β) (unwrap : β → α) (column : Column) :
    (c.component name wrap unwrap).ReadsAlike c wrap column := by
  cases hinner : c.decode column with
  | error e =>
      have hdecode : (c.component name wrap unwrap).decode column = _ :=
        decode_component_of_error hinner
      exact .unreadable e hinner (decodeAll_of_error hinner) hdecode (decodeAll_of_error hdecode)
  | ok values =>
      have hinnerAll := decodeAll_of_decode hinner
      have hdecode : (c.component name wrap unwrap).decode column = _ :=
        decode_component_of_ok hinner
      have hdecodeAll := decodeAll_of_decode hdecode
      obtain ⟨found, rfl | ⟨rest, rfl⟩⟩ := present_or_first values
      · have hmap : (found.map some).map (Option.map wrap) = (found.map wrap).map some := by simp
        rw [allPresent_map_some] at hinnerAll
        rw [hmap] at hdecode
        rw [hmap, allPresent_map_some] at hdecodeAll
        exact .present found hinner hinnerAll hdecode hdecodeAll
      · have hmap : (found.map some ++ none :: rest).map (Option.map wrap) =
            (found.map wrap).map some ++ none :: rest.map (Option.map wrap) := by simp
        rw [allPresent_append_none] at hinnerAll
        rw [hmap, allPresent_append_none, List.length_map] at hdecodeAll
        refine .absent _ found.length (by simp) ?_ hinner hinnerAll hdecode hdecodeAll
        intro earlier hearlier
        simp [List.getElem?_append_left, hearlier]

/-- A component reads values where the datatype inside it reads what they wrap. -/
theorem decode_inner_eq_ok_iff {name : String} {wrap : α → β} {unwrap : β → α}
    (hwrap : ∀ value, wrap (unwrap value) = value) (hunwrap : ∀ value, unwrap (wrap value) = value)
    {column : Column} {values : List (Option β)} :
    c.decode column = .ok (values.map (Option.map unwrap)) ↔
      (c.component name wrap unwrap).decode column = .ok values := by
  constructor
  · intro hinner
    rw [decode_component_of_ok hinner, map_wrap_unwrap hwrap]
  · intro hdecode
    obtain ⟨found, hinner, rfl⟩ := decode_component_eq_ok_iff.mp hdecode
    rw [hinner, map_wrap_unwrap hunwrap]

/-! ## Writing -/

/-- Builders in step take the same values: they refuse the same one and stay in step. -/
theorem appendAll_map {view : d.Builder → c.Builder} {image : Option β → Option α}
    (hstep : ∀ b value, c.append (view b) (image value) =
      ((d.append b value).1, view (d.append b value).2))
    (b : d.Builder) (values : List (Option β)) :
    BatchBuilder.appendAll c (view b) (values.map image) =
      ((BatchBuilder.appendAll d b values).1, view (BatchBuilder.appendAll d b values).2) := by
  induction values generalizing b with
  | nil => rfl
  | cons value values ih =>
      rw [List.map_cons, BatchBuilder.appendAll, BatchBuilder.appendAll, hstep]
      rcases d.append b value with ⟨_ | _, next⟩
      · rfl
      · exact ih next

variable (name : String) (wrap : α → β) (unwrap : β → α)

/-- Memory apart, a component and the datatype inside it write the same. -/
theorem write_component (values : List (Option β)) :
    (c.component name wrap unwrap).write values = c.write (values.map (Option.map unwrap)) := by
  have hsame : BatchBuilder.appendAll c (c.blank values.length) (values.map (Option.map unwrap)) =
      BatchBuilder.appendAll (c.component name wrap unwrap)
        ((c.component name wrap unwrap).blank values.length) values :=
    appendAll_map (c := c) (d := c.component name wrap unwrap) (fun _ _ => rfl)
      ((c.component name wrap unwrap).blank values.length) values
  rw [write, write, List.length_map, hsame]
  rcases BatchBuilder.appendAll (c.component name wrap unwrap) _ values with ⟨_ | _, full⟩
  · rfl
  · dsimp only [component]
    rcases c.finish full with ⟨_ | _, left⟩
    · rfl
    · rfl

/-- Encoding a component differs from encoding the datatype inside it in the name alone. -/
theorem exists_encodeOpt_component (hc : c.StartsEmpty) (values : List (Option β)) : ∃ result,
    (c.component name wrap unwrap).encodeOpt values = Error.within name result ∧
    c.encodeOpt (values.map (Option.map unwrap)) = Error.within c.name result := by
  have hcount : (values.map (Option.map unwrap)).length = values.length := List.length_map _
  by_cases hdenied : c.Denied .unbounded values.length
  · refine ⟨.error (.allocation "new_array_builder" (c.shortage .unbounded values.length)), ?_, ?_⟩
    · rw [encodeOpt, encodeOptIn_of_denied (c := c.component name wrap unwrap) hdenied]
      rfl
    · rw [encodeOpt, encodeOptIn_of_denied (by rwa [hcount]), hcount]
      rfl
  · refine ⟨c.write (values.map (Option.map unwrap)), ?_, ?_⟩
    · rw [encodeOpt, encodeOptIn_of_granted (c := c.component name wrap unwrap) hc
        Pool.counted_unbounded hdenied, write_component]
      rfl
    · rw [encodeOpt, encodeOptIn_of_granted hc Pool.counted_unbounded (by rwa [hcount])]

variable {name} {wrap} {unwrap}

/-- A component is transparent if every list that offsets can count is written and reads back
exactly when it can. -/
theorem transparent_component (hc : c.StartsEmpty) (hwrap : ∀ value, wrap (unwrap value) = value)
    (hunwrap : ∀ value, unwrap (wrap value) = value)
    (hexchange : ∀ values : List (Option β), values.length ≤ maxOffset → ∃ column,
      (c.component name wrap unwrap).encodeOpt values = .ok column ∧
      (values.length ≤ 2 ^ 27 → column.Throughout Column.Addressable) ∧
      ((c.component name wrap unwrap).decode column = .ok values ↔
        column.Throughout Column.Addressable)) :
    (c.component name wrap unwrap).Transparent c wrap unwrap where
  wrap_unwrap := hwrap
  unwrap_wrap := hunwrap
  written := exists_encodeOpt_component name wrap unwrap hc
  exchanged values hlength := by
    obtain ⟨column, hencode, haddressable, hdecode⟩ := hexchange values hlength
    obtain ⟨result, hcomponent, hinner⟩ := exists_encodeOpt_component name wrap unwrap hc values
    have hresult : result = .ok column := Error.within_eq_ok_iff.mp (hcomponent.symm.trans hencode)
    rw [hresult] at hinner
    exact ⟨column, hencode, hinner, haddressable, hdecode,
      (decode_inner_eq_ok_iff hwrap hunwrap).trans hdecode⟩
  readsAlike := readsAlike_component name wrap unwrap

end Codec

end SpatialColumns
