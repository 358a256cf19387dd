import SpatialColumns.Proofs.RecordBatch.Assembly

/-!
# What keeps a record batch from being made

Component batches say what they like about their names, their numbers of instances and
their columns. They are looked at in order, and the first one with a fault decides. Only
if there is none are the columns held against what was announced of them.
-/

namespace SpatialColumns

namespace ComponentBatch

/-- A column that keeps to what its batch announced, with the given number of rows. -/
def Fits (rows : Nat) (batch : ComponentBatch) (column : Column) : Prop :=
  column.nullCount = 0 ∧ column.length = rows ∧ column.datatype = batch.datatype

/-- What is wrong with the first batch that has a fault. -/
def firstFault? (rows : Nat) (batches : List ComponentBatch) : Option Error :=
  batches.zipIdx.findSome? fun (batch, index) =>
    batch.fault? rows ((batches.take index).map name)

variable {rows : Nat} {earlier : List String} {batch : ComponentBatch}

/-- The order and the number of earlier names do not matter. -/
theorem fault?_congr {others : List String} (h : ∀ name, name ∈ earlier ↔ name ∈ others) :
    batch.fault? rows earlier = batch.fault? rows others := by
  simp only [fault?, h]

/-- Input is at fault for one of two reasons. -/
theorem text_of_fault? {fault : InputFault}
    (h : batch.fault? rows earlier = some (.invalidInput fault)) :
    fault.text = if batch.name ∈ earlier then "duplicate component " ++ batch.name
      else "component " ++ batch.name ++ " has " ++ toString batch.instances ++
        " instances, expected " ++ toString rows := by
  unfold fault? at h
  split at h
  next hname =>
    cases h
    rw [if_pos hname]
    rfl
  next hname =>
    split at h
    next hcount =>
      cases h
      rw [if_neg hname]
      rfl
    next => split at h <;> cases h

end ComponentBatch

namespace RecordBatch

open ComponentBatch

variable {rows : Nat} {batches : List ComponentBatch} {columns : List Column}

/-- Batches after some that are done are collected up to the first fault, or all of them with
their fields and columns. -/
theorem collect_after (rows : Nat) (done batches : List ComponentBatch) :
    match (batches.zipIdx done.length).findSome? fun (batch, index) =>
        batch.fault? rows (((done ++ batches).take index).map name) with
    | some e => collect rows (done.map name).reverse batches = .error e
    | none => ∃ columns,
        List.Forall₂ (fun batch column => batch.column = .ok column) batches columns ∧
          collect rows (done.map name).reverse batches =
            .ok ((batches.map field).zip columns) := by
  -- On what is left. The names of what is done stand in reverse, which no fault depends on.
  induction batches generalizing done with
  | nil => exact ⟨[], .nil, rfl⟩
  | cons first batches ih =>
      have hfirst : first.fault? rows (((done ++ first :: batches).take done.length).map name) =
          first.fault? rows (done.map name).reverse := by
        rw [List.take_left']
        · exact fault?_congr fun _ => List.mem_reverse.symm
        · rfl
      have hrest := ih (done ++ [first])
      simp only [List.length_append, List.length_singleton, List.append_assoc,
        List.singleton_append, List.map_append, List.map_singleton, List.reverse_append,
        List.reverse_singleton] at hrest
      rw [List.zipIdx_cons, List.findSome?_cons, collect_cons]
      simp only [hfirst]
      cases hfault : first.fault? rows (done.map name).reverse with
      | some e => rfl
      | none =>
          obtain ⟨-, -, column, hcolumn⟩ := fault?_eq_none_iff.mp hfault
          simp only [hcolumn, Except.bind]
          split at hrest
          next e _ =>
            rw [hrest]
            rfl
          next =>
            obtain ⟨columns, hcolumns, hcollect⟩ := hrest
            refine ⟨column :: columns, .cons hcolumn hcolumns, ?_⟩
            rw [hcollect]
            rfl

/-- Without a fault all batches have columns. -/
theorem collect_eq (rows : Nat) (batches : List ComponentBatch) :
    match firstFault? rows batches with
    | some e => collect rows [] batches = .error e
    | none => ∃ columns,
        List.Forall₂ (fun batch column => batch.column = .ok column) batches columns ∧
          collect rows [] batches = .ok ((batches.map field).zip columns) :=
  collect_after rows [] batches

/-- Columns are accepted exactly if they all fit. -/
theorem accepted_iff_fits (rows : Nat)
    (h : List.Forall₂ (fun batch column => batch.column = .ok column) batches columns) :
    assemble (batches.map field) columns rows = .ok ⟨batches.map field, columns, rows⟩ ↔
      List.Forall₂ (Fits rows) batches columns := by
  simp only [assemble_eq_ok_iff, and_true]
  induction h with
  | nil => simp
  | cons _ _ ih =>
      simp only [List.map_cons, List.zip_cons_cons, List.forall_mem_cons, List.forall₂_cons, ← ih,
        Fits, nullable_field, type_field, Bool.false_eq_true, false_or]
      tauto

/-- The number of instances that the first batch announces. -/
def rowsFor (batches : List ComponentBatch) : Nat := (batches.head?.map (·.instances)).getD 0

theorem ofBatches_eq (batches : List ComponentBatch) :
    ofBatches batches = (collect (rowsFor batches) [] batches).bind fun parts =>
      match assemble (parts.map (·.1)) (parts.map (·.2)) (rowsFor batches) with
      | .ok made => .ok made
      | .error e => .error (.column "to_record_batch" e) := rfl

theorem ofBatches_of_fault {e : Error} (h : firstFault? (rowsFor batches) batches = some e) :
    ofBatches batches = .error e := by
  have hcollect := collect_eq (rowsFor batches) batches
  simp only [h] at hcollect
  rw [ofBatches_eq, hcollect]
  rfl

/-- Without a fault it is up to the columns. -/
theorem ofBatches_of_faultless (h : firstFault? (rowsFor batches) batches = none) :
    ∃ columns,
      List.Forall₂ (fun batch column => batch.column = .ok column) batches columns ∧
      (List.Forall₂ (Fits (rowsFor batches)) batches columns →
        ofBatches batches = .ok ⟨batches.map field, columns, rowsFor batches⟩) ∧
      (¬ List.Forall₂ (Fits (rowsFor batches)) batches columns →
        ∃ e, ofBatches batches = .error (.column "to_record_batch" e)) := by
  have hcollect := collect_eq (rowsFor batches) batches
  simp only [h] at hcollect
  obtain ⟨columns, hcolumns, hparts⟩ := hcollect
  have hlength := hcolumns.length_eq
  have hfields : ((batches.map field).zip columns).map (·.1) = batches.map field :=
    List.map_fst_zip (by simp [hlength])
  have hothers : ((batches.map field).zip columns).map (·.2) = columns :=
    List.map_snd_zip (by simp [hlength])
  rw [ofBatches_eq, hparts, Except.bind, hfields, hothers]
  refine ⟨columns, hcolumns, fun hfits => ?_, fun hmisfit => ?_⟩
  · rw [(accepted_iff_fits _ hcolumns).mpr hfits]
  · cases hmade : assemble (batches.map field) columns (rowsFor batches) with
    | error e => exact ⟨e, rfl⟩
    | ok made =>
        obtain ⟨-, -, -, rfl⟩ := assemble_eq_ok_iff.mp hmade
        exact absurd ((accepted_iff_fits _ hcolumns).mp hmade) hmisfit

/-- What is made consists of all columns in their order, under different names, each of them
with as many rows as it has itself. -/
theorem consists_of_batches {made : RecordBatch} (h : ofBatches batches = .ok made) :
    made.rows = rowsFor batches ∧ made.schema = batches.map field ∧
      (made.schema.map Field.name).Nodup ∧
      List.Forall₂ (fun batch column => batch.column = .ok column) batches made.columns ∧
      ∀ column ∈ made.columns, column.length = made.rows := by
  obtain ⟨parts, hparts, hmade⟩ := ofBatches_eq_ok_iff.mp h
  obtain ⟨hnodup, -, hcontributes⟩ := collect_eq_ok_iff.mp hparts
  obtain ⟨-, hlengths, -, rfl⟩ := assemble_eq_ok_iff.mp hmade
  have hfields : parts.map (·.1) = batches.map field := by
    rw [← List.forall₂_eq_eq_eq, List.forall₂_map_left_iff, List.forall₂_map_right_iff]
    exact (hcontributes.imp fun _ _ hpart => hpart.1).flip
  have hnames : (parts.map (·.1)).map Field.name = batches.map name := by
    rw [hfields, List.map_map]
    rfl
  refine ⟨rfl, hfields, hnames ▸ hnodup, ?_, hlengths⟩
  rw [List.forall₂_map_right_iff]
  exact hcontributes.imp fun _ _ hpart => hpart.2

/-- A fault in the input is worded for the first batch that has one. -/
theorem text_of_firstFault? {fault : InputFault}
    (h : firstFault? rows batches = some (.invalidInput fault)) :
    ∃ index, ∃ hindex : index < batches.length,
      fault.text = if batches[index].name ∈ (batches.take index).map name then
          "duplicate component " ++ batches[index].name
        else "component " ++ batches[index].name ++ " has " ++
          toString batches[index].instances ++ " instances, expected " ++ toString rows := by
  obtain ⟨⟨batch, index⟩, hmem, hfault⟩ := List.exists_of_findSome?_eq_some h
  obtain ⟨hindex, hbatch⟩ : ∃ hindex : index < batches.length, batches[index] = batch :=
    List.getElem?_eq_some_iff.mp (List.mem_zipIdx_iff_getElem?.mp hmem)
  subst hbatch
  exact ⟨index, hindex, text_of_fault? hfault⟩

/-- The first fault is returned. Without one all batches have columns, and the record batch of
these is made exactly if they fit. What is made keeps the order of the batches, and each of
its columns has one slot for each row. -/
theorem ofBatches_outcome (batches : List ComponentBatch) :
    (∀ e, firstFault? (rowsFor batches) batches = some e → ofBatches batches = .error e) ∧
    (∀ fault, firstFault? (rowsFor batches) batches = some (.invalidInput fault) →
      ∃ index, ∃ hindex : index < batches.length,
        fault.text = if batches[index].name ∈ (batches.take index).map name then
            "duplicate component " ++ batches[index].name
          else "component " ++ batches[index].name ++ " has " ++
            toString batches[index].instances ++ " instances, expected " ++
            toString (rowsFor batches)) ∧
    (firstFault? (rowsFor batches) batches = none → ∃ columns,
      List.Forall₂ (fun batch column => batch.column = .ok column) batches columns ∧
      (List.Forall₂ (Fits (rowsFor batches)) batches columns →
        ofBatches batches = .ok ⟨batches.map field, columns, rowsFor batches⟩) ∧
      (¬ List.Forall₂ (Fits (rowsFor batches)) batches columns →
        ∃ e, ofBatches batches = .error (.column "to_record_batch" e))) ∧
    ∀ made, ofBatches batches = .ok made →
      made.rows = rowsFor batches ∧ made.schema = batches.map field ∧
      (made.schema.map Field.name).Nodup ∧
      List.Forall₂ (fun batch column => batch.column = .ok column) batches made.columns ∧
      ∀ column ∈ made.columns, column.length = made.rows := by
  refine ⟨?_, ?_, ?_, ?_⟩
  · exact fun _ => ofBatches_of_fault
  · exact fun _ => text_of_firstFault?
  · exact ofBatches_of_faultless
  · exact fun _ => consists_of_batches

/-- Of three batches the second one has two faults and the third one another, and the first of
these decides. -/
example : ofBatches [⟨"a", .null, 1, .ok (.null 1)⟩, ⟨"b", .null, 2, .error (.poisoned "b")⟩,
    ⟨"a", .null, 1, .ok (.null 1)⟩] = .error (.invalidInput (.instanceCount "b" 2 1)) := rfl

end RecordBatch

end SpatialColumns
