import SpatialColumns.Proofs.Codec.Restored
import SpatialColumns.Proofs.RecordBatch.Instances
import SpatialColumns.Proofs.Stream.RoundTrip

/-!
# Record batches that are sent

A reader restores the columns of a stream and checks them against the schema once more.
Columns of registered kinds come through this unchanged, however many instances there are,
and the check is the one that the record batch has passed when it was made. So a record
batch arrives as it was sent, and its instances are read from what arrives, as long as all
rows of lists in their columns start in time.
-/

namespace SpatialColumns

namespace Codec

variable {α : Type} {c : Codec α}

/-- Where no value is absent, a column that keeps them gives all of them back. -/
theorem Keeps.decodeAll {values : List α} {column : Column}
    (h : c.Keeps (values.map some) column) (haddressable : column.Throughout Column.Addressable) :
    c.decodeAll column = .ok values :=
  decodeAll_eq_ok_iff.mpr (h.decode haddressable)

end Codec

/-- Every column of a registered kind keeps the values that it was made of. -/
theorem Kind.keeps_of_encode {k : Kind} (hk : k ∈ registered) {values : List k.Value}
    {column : Column} (hencode : k.codec.encode values = .ok column) :
    k.codec.Keeps (values.map some) column := by
  obtain ⟨_, _, h⟩ := sound_of_registered hk
  exact h.keeps_of_encodeOptIn hencode

/-- The column of up to `2 ^ 27` values is addressable. -/
theorem Kind.addressable_of_encode {k : Kind} (hk : k ∈ registered) {values : List k.Value}
    {column : Column} (hencode : k.codec.encode values = .ok column)
    (hlength : values.length ≤ 2 ^ 27) : column.Throughout Column.Addressable := by
  have hcount : (values.map some).length ≤ 2 ^ 27 := by rwa [List.length_map]
  obtain ⟨made, hmade, haddressable, -⟩ :=
    exists_encodeOpt_decode_iff hk (Nat.le_trans hcount (by decide))
  obtain rfl : column = made := Except.ok.inj (hencode.symm.trans hmade)
  exact haddressable hcount

/-- A record batch is restored as it is if each of its columns is. -/
theorem RecordBatch.restored_of_columns {batch : RecordBatch}
    (hcolumns : ∀ column ∈ batch.columns, column.restored = .ok column)
    (hassemble : assemble batch.schema batch.columns batch.rows = .ok batch) :
    batch.restored = .ok batch := by
  have hall : batch.columns.mapM Column.restored = .ok batch.columns :=
    Column.mapM_eq_ok rfl fun _ hindex _ => hcolumns _ (List.getElem_mem hindex)
  rw [restored, hall]
  exact hassemble

/-- Record batches that are restored as they are arrive as they are. -/
theorem Stream.read_write_of_restored {batches : List RecordBatch}
    (h : ∀ batch ∈ batches, batch.restored = .ok batch) : read (write batches) = .ok batches := by
  have hall : batches.mapM RecordBatch.restored = .ok batches :=
    Column.mapM_eq_ok rfl fun _ hindex _ => h _ (List.getElem_mem hindex)
  rw [read_write, hall]
  rfl

namespace Instances

variable {given : List Instances} {made : RecordBatch}

/-- What is known of a record batch that instances make up, however many there are. -/
structure MakeUp (given : List Instances) (made : RecordBatch) : Prop where
  nodup : (given.map name).Nodup
  schema : made.schema = given.map (·.kind.codec.field)
  rows : ∀ x ∈ given, made.rows = x.values.length
  columns : List.Forall₂ (fun x column => x.kind.codec.Keeps (x.values.map some) column ∧
    (x.values.length ≤ 2 ^ 27 → column.Throughout Column.Addressable)) given made.columns
  assembled : RecordBatch.assemble made.schema made.columns made.rows = .ok made

theorem makeUp_of_ofBatches (hgiven : ∀ x ∈ given, x.kind ∈ Kind.registered)
    (hmade : RecordBatch.ofBatches (given.map batch) = .ok made) : MakeUp given made := by
  obtain ⟨parts, hcollect, hassemble⟩ := RecordBatch.ofBatches_eq_ok_iff.mp hmade
  obtain ⟨hnames, hcounts, hparts⟩ := RecordBatch.collect_eq_ok_iff.mp hcollect
  obtain ⟨hfields, hencode⟩ := forall₂_contributes.mp hparts
  have hassembled := RecordBatch.assemble_self hassemble
  obtain ⟨-, -, -, rfl⟩ := RecordBatch.assemble_eq_ok_iff.mp hassemble
  refine ⟨?_, hfields, ?_, ?_, hassembled⟩
  · simpa [Function.comp_def] using hnames
  · intro x hx
    have hcount := (hcounts _ (List.mem_map_of_mem hx)).2
    rw [instances_batch] at hcount
    exact hcount.symm
  · exact ((List.forall₂_and_left _ _).mpr ⟨hgiven, hencode⟩).imp fun _ _ h =>
      ⟨Kind.keeps_of_encode h.1 h.2, Kind.addressable_of_encode h.1 h.2⟩

namespace MakeUp

theorem restored (h : MakeUp given made) : made.restored = .ok made := by
  refine RecordBatch.restored_of_columns (fun column hcolumn => ?_) h.assembled
  obtain ⟨index, hindex, rfl⟩ := List.getElem_of_mem hcolumn
  have hx : index < given.length := h.columns.length_eq ▸ hindex
  exact (h.columns.get hx hindex).1.restored

theorem component (h : MakeUp given made) {x : Instances} (hx : x ∈ given) :
    ∃ column, made.column? x.name = some column ∧
      (x.values.length ≤ 2 ^ 27 → column.Throughout Column.Addressable) ∧
      (column.Throughout Column.Addressable → made.component x.kind.codec = .ok x.values) := by
  obtain ⟨column, hcolumn, hkeeps, haddressable⟩ := exists_column? h.nodup h.columns h.schema hx
  exact ⟨column, hcolumn, haddressable, fun hreach =>
    (component_eq_ok_iff hcolumn).mpr (hkeeps.decodeAll hreach)⟩

end MakeUp

end Instances

end SpatialColumns
