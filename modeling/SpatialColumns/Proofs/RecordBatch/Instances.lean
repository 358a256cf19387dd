import SpatialColumns.Proofs.Codec.RoundTrip
import SpatialColumns.Proofs.RecordBatch.Assembly

/-!
# Record batches of instances

Instances of registered kinds come as a list or one at a time. Side by side they
make up a record batch exactly if no kind is named twice and all lists are of one
length. Three parts then agree about it: the columns are what each codec writes, the
schema is what the registry makes of the names, and each codec reads back its own
instances, as long as all rows of lists in its column start in time.
-/

namespace SpatialColumns

open DenseUnion (maxOffset)

/-- Instances of one kind, as a list or a single one. -/
inductive Instances where
  | list (k : Kind) (values : List k.Value)
  | single (k : Kind) (value : k.Value)

namespace Instances

def kind : Instances → Kind
  | list k _ => k
  | single k _ => k

def values : (x : Instances) → List x.kind.Value
  | list _ values => values
  | single _ value => [value]

/-- The name of the component. -/
def name (x : Instances) : String := x.kind.codec.name

/-- The number of instances. -/
def count (x : Instances) : Nat := x.values.length

def batch : Instances → ComponentBatch
  | list k values => .ofList k.codec values
  | single k value => .single k.codec value

theorem batch_eq (x : Instances) : x.batch = .ofList x.kind.codec x.values := by
  cases x <;> rfl

@[simp] theorem name_batch (x : Instances) : x.batch.name = x.name := by
  rw [batch_eq]
  rfl

@[simp] theorem instances_batch (x : Instances) : x.batch.instances = x.count := by
  rw [batch_eq]
  rfl

/-- A column that instances are written to, and read from if it is addressable. -/
structure WrittenTo (x : Instances) (column : Column) : Prop where
  encode : x.kind.codec.encode x.values = .ok column
  length : column.length = x.count
  datatype : column.datatype = x.kind.codec.datatype
  nullCount : column.nullCount = 0
  addressable (hcount : x.count ≤ 2 ^ 27) : column.Throughout Column.Addressable
  decodeAll_iff : x.kind.codec.decodeAll column = .ok x.values ↔
    column.Throughout Column.Addressable

end Instances

namespace Kind

/-- The registry knows every registered kind by the field that its codec has. -/
theorem fieldFor_name : ∀ k ∈ registered, Registry.fieldFor k.codec.name = .ok k.codec.field := by
  decide

end Kind

namespace Instances

/-- Instances that can be counted are written to a column. -/
theorem exists_writtenTo {x : Instances} (hk : x.kind ∈ Kind.registered)
    (hcount : x.count ≤ maxOffset) : ∃ column, x.WrittenTo column := by
  obtain ⟨holding, column, h, hnulls⟩ := Kind.lawful_without_nulls hk
  have hlength : (x.values.map some).length ≤ maxOffset := by
    rw [List.length_map]
    exact hcount
  refine ⟨column (x.values.map some), ?_, ?_, h.column_datatype _, hnulls _, fun hfew => ?_, ?_⟩
  · exact Kind.encodeOpt_of_lawful hk h hlength
  · rw [h.column_length, List.length_map]
    rfl
  · exact h.addressable _ (by rwa [List.length_map])
  · exact Codec.decodeAll_eq_ok_iff.trans (h.decode_eq_ok_iff hlength)

/-- Every list of instances that can be counted is written to a list of columns. -/
theorem exists_writtenTo_all {given : List Instances}
    (hgiven : ∀ x ∈ given, x.kind ∈ Kind.registered ∧ x.count ≤ maxOffset) :
    ∃ columns, List.Forall₂ WrittenTo given columns := by
  induction given with
  | nil => exact ⟨[], .nil⟩
  | cons x given ih =>
      obtain ⟨hx, hrest⟩ := List.forall_mem_cons.mp hgiven
      obtain ⟨column, hcolumn⟩ := exists_writtenTo hx.1 hx.2
      obtain ⟨columns, hcolumns⟩ := ih hrest
      exact ⟨column :: columns, .cons hcolumn hcolumns⟩

/-- No other column is written for instances that can be counted. -/
theorem writtenTo {x : Instances} {column : Column} (hk : x.kind ∈ Kind.registered)
    (hcount : x.count ≤ maxOffset) (hencode : x.kind.codec.encode x.values = .ok column) :
    x.WrittenTo column := by
  obtain ⟨written, hwritten⟩ := exists_writtenTo hk hcount
  obtain rfl : column = written := Except.ok.inj (hencode.symm.trans hwritten.encode)
  exact hwritten

/-- The batch of instances contributes the codec's field and the column. -/
theorem contributes_iff {x : Instances} {part : Field × Column} :
    RecordBatch.Contributes x.batch part ↔
      part.1 = x.kind.codec.field ∧ x.kind.codec.encode x.values = .ok part.2 := by
  rw [batch_eq]
  exact Iff.rfl

/-- The parts that instances contribute are their fields and their columns. -/
theorem forall₂_contributes {given : List Instances} {parts : List (Field × Column)} :
    List.Forall₂ RecordBatch.Contributes (given.map batch) parts ↔
      parts.map (·.1) = given.map (·.kind.codec.field) ∧
        List.Forall₂ (fun x column => x.kind.codec.encode x.values = .ok column) given
          (parts.map (·.2)) := by
  rw [List.forall₂_map_left_iff]
  induction given generalizing parts with
  | nil => cases parts <;> simp
  | cons x given ih =>
      cases parts with
      | nil => simp
      | cons part parts =>
          rw [List.forall₂_cons, contributes_iff, ih]
          simp only [List.map_cons, List.cons.injEq, List.forall₂_cons]
          exact and_and_and_comm

/-- The number of instances of the first kind, which all others have to match. -/
def commonCount (given : List Instances) : Nat := (given.head?.map count).getD 0

/-- What is written for instances passes every check of a record batch. -/
theorem assemble_written {given : List Instances} {columns : List Column}
    (hwritten : List.Forall₂ WrittenTo given columns)
    (hcount : ∀ x ∈ given, x.count = commonCount given) :
    RecordBatch.assemble (given.map (·.kind.codec.field)) columns (commonCount given) =
      .ok ⟨given.map (·.kind.codec.field), columns, commonCount given⟩ := by
  have hserves : List.Forall₂
      (fun (field : Field) (column : Column) =>
        column.nullCount = 0 ∧ column.datatype = field.type)
      (given.map (·.kind.codec.field)) columns := by
    rw [List.forall₂_map_left_iff]
    exact hwritten.imp fun _ _ h => ⟨h.nullCount, h.datatype⟩
  have hlengths : ∀ column ∈ columns, column.length = commonCount given := by
    intro column hmem
    obtain ⟨index, hindex, rfl⟩ := List.getElem_of_mem hmem
    have hx : index < given.length := hwritten.length_eq ▸ hindex
    have hfound : columns[index].length = given[index].count := (hwritten.get hx hindex).length
    rw [hfound]
    exact hcount _ (List.getElem_mem hx)
  rw [RecordBatch.assemble_eq_ok_iff]
  obtain ⟨-, hentries⟩ := List.forall₂_iff_zip.mp hserves
  exact ⟨fun entry hmem => .inr (hentries hmem).1, hlengths,
    fun entry hmem => (hentries hmem).2, rfl⟩

/-- Exactly when, and to what, instances are put together. -/
theorem ofBatches_eq_ok_iff_written {given : List Instances}
    (hgiven : ∀ x ∈ given, x.kind ∈ Kind.registered ∧ x.count ≤ maxOffset)
    {made : RecordBatch} :
    RecordBatch.ofBatches (given.map batch) = .ok made ↔
      (given.map name).Nodup ∧ (∀ x ∈ given, x.count = commonCount given) ∧
        List.Forall₂ WrittenTo given made.columns ∧
        made = ⟨given.map (·.kind.codec.field), made.columns, commonCount given⟩ := by
  have hrows : (((given.map batch).head?.map (·.instances)).getD 0) = commonCount given := by
    cases given with
    | nil => rfl
    | cons x given => cases x <;> rfl
  have hnames : (given.map batch).map ComponentBatch.name = given.map name := by
    simp
  have hnew : (∀ b ∈ given.map batch, b.name ∉ [] ∧ b.instances = commonCount given) ↔
      ∀ x ∈ given, x.count = commonCount given := by
    simp
  rw [RecordBatch.ofBatches_eq_ok_iff, hrows]
  simp only [RecordBatch.collect_eq_ok_iff, hnames, hnew, forall₂_contributes]
  constructor
  · rintro ⟨parts, ⟨hnodup, hcount, hschema, hencode⟩, hmade⟩
    have hwritten : List.Forall₂ WrittenTo given (parts.map (·.2)) :=
      ((List.forall₂_and_left _ _).mpr ⟨hgiven, hencode⟩).imp fun _ _ h =>
        writtenTo h.1.1 h.1.2 h.2
    rw [hschema, assemble_written hwritten hcount] at hmade
    obtain rfl := Except.ok.inj hmade
    exact ⟨hnodup, hcount, hwritten, rfl⟩
  · rintro ⟨hnodup, hcount, hwritten, hmade⟩
    have hlength : (given.map (·.kind.codec.field)).length = made.columns.length := by
      rw [List.length_map, hwritten.length_eq]
    have hfields : ((given.map (·.kind.codec.field)).zip made.columns).map (·.1) =
        given.map (·.kind.codec.field) := List.map_fst_zip (Nat.le_of_eq hlength)
    have hcolumns : ((given.map (·.kind.codec.field)).zip made.columns).map (·.2) =
        made.columns := List.map_snd_zip (Nat.le_of_eq hlength.symm)
    refine ⟨(given.map (·.kind.codec.field)).zip made.columns, ⟨hnodup, hcount, hfields, ?_⟩, ?_⟩
    · rw [hcolumns]
      exact hwritten.imp fun _ _ h => h.encode
    · rw [hfields, hcolumns, assemble_written hwritten hcount]
      exact congrArg Except.ok hmade.symm

/-- The registry makes the same schema of the names as the codecs have fields. -/
theorem schemaFor_names {given : List Instances} (hgiven : ∀ x ∈ given, x.kind ∈ Kind.registered) :
    Registry.schemaFor (given.map name) = .ok (given.map (·.kind.codec.field)) := by
  rw [Registry.schemaFor, List.mapM_map]
  apply Column.mapM_eq_ok (by simp)
  intro index hindex hfield
  simpa [name] using Kind.fieldFor_name _ (hgiven _ (List.getElem_mem hindex))

/-- Each component has its own column under its name. -/
theorem exists_column? {given : List Instances} {made : RecordBatch}
    {serves : Instances → Column → Prop} (hnodup : (given.map name).Nodup)
    (hserves : List.Forall₂ serves given made.columns)
    (hschema : made.schema = given.map (·.kind.codec.field)) {x : Instances} (hx : x ∈ given) :
    ∃ column, made.column? x.name = some column ∧ serves x column := by
  obtain ⟨index, hindex, rfl⟩ := List.getElem_of_mem hx
  have hcolumn : index < made.columns.length := hserves.length_eq ▸ hindex
  have hnames : (made.schema.map Field.name).Nodup := by
    rw [hschema, List.map_map]
    exact hnodup
  have hmem : ((given[index]).kind.codec.field, made.columns[index]) ∈
      made.schema.zip made.columns := by
    rw [hschema, List.mem_iff_getElem]
    refine ⟨index, by simp [hindex, hcolumn], by simp⟩
  exact ⟨made.columns[index], RecordBatch.column?_of_mem hnames hmem, hserves.get hindex hcolumn⟩

/-- A component is read as its column is. -/
theorem component_eq_ok_iff {made : RecordBatch} {x : Instances} {column : Column}
    (hcolumn : made.column? x.name = some column) :
    made.component x.kind.codec = .ok x.values ↔ x.kind.codec.decodeAll column = .ok x.values := by
  have hfound : made.column? x.kind.codec.name = some column := hcolumn
  simp only [RecordBatch.component, hfound]
  cases x.kind.codec.decodeAll column <;> simp

/-- A list of one transform next to a single identifier. -/
def transformAndView : List Instances :=
  [.list .transform3D [.ofScale (.uniform ⟨0x80000000⟩)], .single .includedSpaceView ⟨.ofNat 7⟩]

end Instances

end SpatialColumns
