import Mathlib.Data.List.Forall2
import SpatialColumns.RecordBatch

/-!
# Putting record batches together

A record batch is put together in two passes, and each has one reason to accept:
the batches have names of their own, one number of instances and a column each;
the columns have that number of rows, no nulls and the datatypes that were
announced. Under a name of its own a column is found again.
-/

namespace SpatialColumns

namespace ComponentBatch

/-- The field that is announced for the column. -/
def field (batch : ComponentBatch) : Field := .required batch.name batch.datatype

@[simp] theorem nullable_field (batch : ComponentBatch) : batch.field.nullable = false := rfl

@[simp] theorem type_field (batch : ComponentBatch) : batch.field.type = batch.datatype := rfl

/-- What is wrong with a batch among batches of which the earlier ones have the given names:
first that its name is one of them, then that its number of instances is not the one asked
for, then that it has no column. -/
def fault? (rows : Nat) (earlier : List String) (batch : ComponentBatch) : Option Error :=
  if batch.name ∈ earlier then some (.invalidInput (.duplicateComponent batch.name))
  else if batch.instances ≠ rows then
    some (.invalidInput (.instanceCount batch.name batch.instances rows))
  else match batch.column with
    | .error e => some (.context batch.name e)
    | .ok _ => none

variable {rows : Nat} {earlier : List String} {batch : ComponentBatch}

theorem fault?_eq_none_iff :
    batch.fault? rows earlier = none ↔
      batch.name ∉ earlier ∧ batch.instances = rows ∧ ∃ column, batch.column = .ok column := by
  unfold fault?
  split
  next hname => simp [hname]
  next hname =>
    split
    next hcount => simp [hcount]
    next hcount =>
      cases batch.column with
      | error e => simp
      | ok column => simpa [hname] using hcount

end ComponentBatch

namespace RecordBatch

variable {rows : Nat} {seen : List String} {batches : List ComponentBatch}
  {parts : List (Field × Column)} {schema : Schema} {columns : List Column} {batch : RecordBatch}

/-- The field and the column that a batch contributes. -/
def Contributes (batch : ComponentBatch) (part : Field × Column) : Prop :=
  part.1 = .required batch.name batch.datatype ∧ batch.column = .ok part.2

/-- A fault of the first batch decides, and if it has none the rest does. -/
theorem collect_cons (rows : Nat) (seen : List String) (first : ComponentBatch)
    (batches : List ComponentBatch) :
    collect rows seen (first :: batches) =
      match first.fault? rows seen with
      | some e => .error e
      | none => first.column.bind fun column =>
        (collect rows (first.name :: seen) batches).map ((first.field, column) :: ·) := by
  rw [collect, ComponentBatch.fault?]
  by_cases hname : first.name ∈ seen
  · simp [hname]
  by_cases hcount : first.instances ≠ rows
  · simp [hname, hcount]
  cases hcolumn : first.column with
  | error e => simp [hname, hcount, bind, Except.bind]
  | ok column =>
      simp only [hname, hcount, if_false, Error.within_ok, bind, Except.bind, pure, Except.pure]
      cases collect rows (first.name :: seen) batches <;> rfl

/-- The first batch is collected if its name is new, its number of instances is the one
asked for and it has a column; the rest is collected under one more name. -/
theorem collect_cons_eq_ok_iff {first : ComponentBatch} :
    collect rows seen (first :: batches) = .ok parts ↔
      first.name ∉ seen ∧ first.instances = rows ∧
        ∃ column rest, first.column = .ok column ∧
          collect rows (first.name :: seen) batches = .ok rest ∧
          parts = (.required first.name first.datatype, column) :: rest := by
  rw [collect_cons]
  cases hfault : first.fault? rows seen with
  | some e =>
      constructor
      · intro h
        cases h
      · rintro ⟨hname, hcount, column, -, hcolumn, -⟩
        have hnone := ComponentBatch.fault?_eq_none_iff.mpr ⟨hname, hcount, column, hcolumn⟩
        rw [hfault] at hnone
        cases hnone
  | none =>
      obtain ⟨hname, hcount, column, hcolumn⟩ := ComponentBatch.fault?_eq_none_iff.mp hfault
      simp only [hcolumn, Except.bind]
      cases collect rows (first.name :: seen) batches with
      | error e => simp [Except.map]
      | ok rest => simp [hname, hcount, Except.map, ComponentBatch.field, eq_comm]

/-- Batches are collected if no name comes twice and all have the same number of instances. -/
theorem collect_eq_ok_iff :
    collect rows seen batches = .ok parts ↔
      (batches.map ComponentBatch.name).Nodup ∧
        (∀ batch ∈ batches, batch.name ∉ seen ∧ batch.instances = rows) ∧
        List.Forall₂ Contributes batches parts := by
  induction batches generalizing seen parts with
  | nil => cases parts <;> simp [collect]
  | cons first batches ih =>
      rw [collect_cons_eq_ok_iff, List.map_cons, List.nodup_cons, List.forall_mem_cons]
      constructor
      · rintro ⟨hseen, hrows, column, rest, hcolumn, hrest, rfl⟩
        obtain ⟨hnodup, hnew, hparts⟩ := ih.mp hrest
        have hfresh : first.name ∉ batches.map ComponentBatch.name := by
          intro hmem
          obtain ⟨other, hother, hname⟩ := List.mem_map.mp hmem
          exact (hnew other hother).1 (hname ▸ List.mem_cons_self)
        exact ⟨⟨hfresh, hnodup⟩, ⟨⟨hseen, hrows⟩, fun other hother =>
          ⟨fun hmem => (hnew other hother).1 (List.mem_cons_of_mem _ hmem), (hnew other hother).2⟩⟩,
          .cons ⟨rfl, hcolumn⟩ hparts⟩
      · rintro ⟨⟨hfresh, hnodup⟩, ⟨⟨hseen, hrows⟩, hnew⟩, hparts⟩
        cases hparts with
        | @cons _ part _ rest hpart hrest =>
            obtain ⟨field, column⟩ := part
            obtain ⟨rfl, hcolumn⟩ := hpart
            refine ⟨hseen, hrows, column, rest, hcolumn, ih.mpr ⟨hnodup, ?_, hrest⟩, rfl⟩
            intro other hother
            obtain ⟨hother', hcount⟩ := hnew other hother
            have hne : other.name ≠ first.name := fun hname =>
              hfresh (List.mem_map.mpr ⟨other, hother, hname⟩)
            exact ⟨by simp [hne, hother'], hcount⟩

/-- Columns are accepted if they have no nulls, as many rows as asked for, and the
datatypes of their fields. -/
theorem assemble_eq_ok_iff :
    assemble schema columns rows = .ok batch ↔
      (∀ entry ∈ schema.zip columns, entry.1.nullable = true ∨ entry.2.nullCount = 0) ∧
        (∀ column ∈ columns, column.length = rows) ∧
        (∀ entry ∈ schema.zip columns, entry.2.datatype = entry.1.type) ∧
        batch = ⟨schema, columns, rows⟩ := by
  have hnulls : nullDefect? schema columns = none ↔
      ∀ entry ∈ schema.zip columns, entry.1.nullable = true ∨ entry.2.nullCount = 0 := by
    simp only [nullDefect?, List.findSome?_eq_none_iff]
    refine forall₂_congr fun entry _ => ?_
    by_cases hnullable : entry.1.nullable = true <;> simp [hnullable]
  have hlengths : (columns.any fun column => column.length ≠ rows) = false ↔
      ∀ column ∈ columns, column.length = rows := by
    simp
  have htypes : typeDefect? schema columns = none ↔
      ∀ entry ∈ schema.zip columns, entry.2.datatype = entry.1.type := by
    simp only [typeDefect?, List.findSome?_eq_none_iff]
    constructor
    · intro h entry hmem
      obtain ⟨index, hindex, rfl⟩ := List.getElem_of_mem hmem
      simpa using h (_, index) (List.mem_zipIdx_iff_getElem?.mpr (List.getElem?_eq_getElem hindex))
    · rintro h ⟨entry, index⟩ hmem
      simpa using h entry (List.fst_mem_of_mem_zipIdx hmem)
  unfold assemble
  rw [← hnulls, ← hlengths, ← htypes]
  cases nullDefect? schema columns with
  | some e => simp
  | none =>
      cases columns.any fun column => column.length ≠ rows with
      | true => simp
      | false =>
          cases typeDefect? schema columns with
          | some e => simp
          | none => simp [eq_comm]

/-- What is put together consists of what was given. -/
theorem assemble_self (h : assemble schema columns rows = .ok batch) :
    assemble batch.schema batch.columns batch.rows = .ok batch := by
  obtain ⟨-, -, -, rfl⟩ := assemble_eq_ok_iff.mp h
  exact h

/-- A record batch is made if both passes accept. -/
theorem ofBatches_eq_ok_iff :
    ofBatches batches = .ok batch ↔
      ∃ parts, collect ((batches.head?.map (·.instances)).getD 0) [] batches = .ok parts ∧
        assemble (parts.map (·.1)) (parts.map (·.2))
          ((batches.head?.map (·.instances)).getD 0) = .ok batch := by
  simp only [ofBatches, bind, Except.bind]
  cases collect ((batches.head?.map (·.instances)).getD 0) [] batches with
  | error e => simp
  | ok parts =>
      simp only [Except.ok.injEq, exists_eq_left']
      split
      next made hmade => simp [hmade, pure, Except.pure]
      next e hmade => simp [hmade]

/-- Where no name comes twice, every column is found under its own name. -/
theorem column?_of_mem (hnodup : (batch.schema.map Field.name).Nodup) {field : Field}
    {column : Column} (hmem : (field, column) ∈ batch.schema.zip batch.columns) :
    batch.column? field.name = some column := by
  obtain ⟨schema, columns, rows⟩ := batch
  simp only [column?] at *
  induction schema generalizing columns with
  | nil => simp at hmem
  | cons first schema ih =>
      cases columns with
      | nil => simp at hmem
      | cons head columns =>
          rw [List.map_cons, List.nodup_cons] at hnodup
          rw [List.zip_cons_cons] at hmem ⊢
          rcases List.mem_cons.mp hmem with heq | htail
          · cases heq
            simp
          · have hne : first.name ≠ field.name := fun heq =>
              hnodup.1 (heq ▸ List.mem_map_of_mem (List.of_mem_zip htail).1)
            rw [List.find?_cons_of_neg (by simpa using hne)]
            exact ih columns hnodup.2 htail

/-- A name that no field has leads to no column. -/
theorem column?_eq_none {name : String} (hname : name ∉ batch.schema.map Field.name) :
    batch.column? name = none := by
  rw [column?, Option.map_eq_none_iff, List.find?_eq_none]
  intro entry hmem heq
  exact hname (List.mem_map.mpr ⟨entry.1, (List.of_mem_zip hmem).1, by simpa using heq⟩)

end RecordBatch

end SpatialColumns
