import SpatialColumns.Proofs.Codec.RoundTrip

/-!
# Builders that are sealed again and again

A builder goes on after its column is finished. It is made of many parts, and each is
emptied by a step of its own: the slots and the validity bits of lists and structs, the
entries, the offsets and the null markers of unions. None is left out, so a column holds
what was taken since the column before it and nothing else.
-/

namespace SpatialColumns

open DenseUnion (maxOffset nullMarkersTypeId)

section Runs

variable {σ ι ο : Type} {step : ι → StateM σ ο}
variable {input : ι} {inputs : List ι} {start middle last : σ}

theorem run_mapM_cons {outcome : ο} {outcomes : List ο}
    (hhead : (step input).run start = (outcome, middle))
    (htail : (inputs.mapM step).run middle = (outcomes, last)) :
    ((input :: inputs).mapM step).run start = (outcome :: outcomes, last) := by
  rw [List.mapM_cons, StateT.run_bind, hhead]
  change (inputs.mapM step >>= fun outcomes => pure (outcome :: outcomes)).run middle = _
  rw [StateT.run_bind, htail]
  rfl

/-- Steps that all leave the state as it was at the start come to what each comes to alone. -/
theorem mapM_of_restored {outcome : ι → ο}
    (h : ∀ input ∈ inputs, (step input).run start = (outcome input, start)) :
    (inputs.mapM step).run start = (inputs.map outcome, start) := by
  induction inputs with
  | nil => rfl
  | cons input inputs ih =>
      have hhead := h input List.mem_cons_self
      have htail := ih fun later hlater => h later (List.mem_cons_of_mem _ hlater)
      exact run_mapM_cons hhead htail

end Runs

namespace ValidityBuilder

/-- Pushes a run of bits and seals it: what comes of it, and the number of rows left. -/
def sealRun (bits : List Bool) : StateM ValidityBuilder (Option (List Bool) × Nat) := fun b =>
  let (made, left) := (bits.foldl push b).finish
  ((made, left.length), left)

theorem bits_foldl_push (b : ValidityBuilder) (bits : List Bool) :
    (bits.foldl push b).bits = b.bits ++ bits := by
  induction bits generalizing b with
  | nil => simp
  | cons bit bits ih => simp [ih, push]

theorem sealRun_fresh (bits : List Bool) :
    (sealRun bits).run {} = ((if bits.all id then none else some bits, 0), {}) := by
  simp [sealRun, StateT.run, finish, sealed, bits_foldl_push, length]

end ValidityBuilder

namespace FixedSizeListBuilder

variable {type : Primitive} {n : Nat}

/-- Pushes a run of rows and finishes their column: the column, and the number of rows left. -/
def sealRun (rows : List (Option (Vector type.Native n))) :
    StateM (FixedSizeListBuilder type n) (Column × Nat) := fun b =>
  let (made, left) := (rows.foldl push b).finish
  ((made, left.length), left)

theorem sealRun_fresh (rows : List (Option (Vector type.Native n))) :
    (sealRun rows).run {} = ((column type rows, 0), {}) := by
  have hpushed : rows.foldl push {} = holding rows := foldl_push_holding [] rows
  rw [StateT.run, sealRun, hpushed, finish_holding]
  rfl

end FixedSizeListBuilder

namespace UnionEntries

/-- A run of entries, each absent or of a type id and past a child of some length, and the arms
and children of the union that is finished from them. -/
structure Run where
  entries : List (Option (Int8 × Nat))
  arms : List (Int8 × Field)
  children : List Column

/-- Whether offsets can count the entries of a run and the children that they point past. -/
structure Run.Counted (run : Run) : Prop where
  entries : run.entries.length ≤ maxOffset
  children : ∀ typeId childLength, some (typeId, childLength) ∈ run.entries →
    childLength ≤ maxOffset

/-- Records an entry, or refuses it. -/
def take (entry : Option (Int8 × Nat)) : StateM UnionEntries (Except ColumnError Unit) :=
  match entry with
  | none => appendNull
  | some (typeId, childLength) => fun b => b.append typeId childLength

/-- Records a run of entries and finishes their union: whether the entries were recorded, the
union, and the number of entries left. -/
def sealRun (run : Run) :
    StateM UnionEntries (List (Except ColumnError Unit) × Except ColumnError Column × Nat) :=
  fun b =>
    let (taken, full) := (run.entries.mapM take).run b
    let (made, left) := full.finish run.arms run.children
    ((taken, made, left.length), left)

def typeIdOf : Option (Int8 × Nat) → Int8
  | none => nullMarkersTypeId
  | some (typeId, _) => typeId

/-- The slots that entries point at, the next null marker being the one of the given number. -/
def slotsFrom (marker : Nat) : List (Option (Int8 × Nat)) → List Nat
  | [] => []
  | none :: entries => marker :: slotsFrom (marker + 1) entries
  | some (_, childLength) :: entries => childLength :: slotsFrom marker entries

/-- The union of a run of entries, whose null markers are numbered from zero. -/
def Run.union? (run : Run) : Except ColumnError Column :=
  Column.union? run.arms .dense (run.entries.map typeIdOf)
    ((slotsFrom 0 run.entries).map Int32.ofNat)
    (.null (run.entries.countP Option.isNone) :: run.children)

/-- The builder that has recorded further entries. -/
def recording (b : UnionEntries) (entries : List (Option (Int8 × Nat))) : UnionEntries where
  typeIds := b.typeIds ++ entries.map typeIdOf
  offsets := b.offsets ++ (slotsFrom b.nullMarkers entries).map Int32.ofNat
  nullMarkers := b.nullMarkers + entries.countP Option.isNone

theorem recording_nil (b : UnionEntries) : b.recording [] = b := by
  simp [recording, slotsFrom]

theorem recording_none (b : UnionEntries) (entries : List (Option (Int8 × Nat))) :
    b.recording (none :: entries) = b.recordNull.recording entries := by
  simp [recording, recordNull, record, slotsFrom, typeIdOf]
  omega

theorem recording_some (b : UnionEntries) (typeId : Int8) (childLength : Nat)
    (entries : List (Option (Int8 × Nat))) :
    b.recording (some (typeId, childLength) :: entries) =
      (b.record typeId childLength).recording entries := by
  simp [recording, record, slotsFrom, typeIdOf]

/-- Entries that an offset can count are all recorded. -/
theorem mapM_take (b : UnionEntries) {entries : List (Option (Int8 × Nat))}
    (hmarkers : b.nullMarkers + entries.length ≤ maxOffset + 1)
    (hchildren : ∀ typeId childLength, some (typeId, childLength) ∈ entries →
      childLength ≤ maxOffset) :
    (entries.mapM take).run b = (entries.map fun _ => .ok (), b.recording entries) := by
  -- The builder is not a fresh one after the first entry, so its null markers are numbered on.
  induction entries generalizing b with
  | nil =>
      rw [recording_nil]
      rfl
  | cons entry entries ih =>
      rw [List.length_cons] at hmarkers
      have hrest : ∀ typeId childLength, some (typeId, childLength) ∈ entries →
          childLength ≤ maxOffset :=
        fun typeId childLength hmem => hchildren typeId childLength (List.mem_cons_of_mem _ hmem)
      rcases entry with _ | ⟨typeId, childLength⟩
      · have hentry : (take none).run b = (.ok (), b.recordNull) :=
          appendNull_of_le_maxOffset (by omega)
        have htail := ih b.recordNull (by simp only [recordNull]; omega) hrest
        rw [recording_none]
        exact run_mapM_cons hentry htail
      · have hentry : (take (some (typeId, childLength))).run b =
            (.ok (), b.record typeId childLength) :=
          b.append_of_le_maxOffset typeId (hchildren typeId childLength List.mem_cons_self)
        have htail := ih (b.record typeId childLength) (by simp only [record]; omega) hrest
        rw [recording_some]
        exact run_mapM_cons hentry htail

theorem sealRun_fresh {run : Run} (h : run.Counted) :
    (sealRun run).run {} = ((run.entries.map fun _ => .ok (), run.union?, 0), {}) := by
  have htaken := mapM_take {} (Nat.le_succ_of_le (by simpa using h.entries)) h.children
  rw [StateT.run, sealRun, htaken]
  simp [recording, finish, Run.union?, length]

end UnionEntries

namespace Codec

variable {α : Type} {c : Codec α}

/-- Takes a run of values and finishes their column: whether the values were taken, what was made
of them, and the number of values left. -/
def sealRun (c : Codec α) (run : List (Option α)) :
    StateM c.Builder (Except Error Unit × Except ColumnError Column × Nat) := fun b =>
  let (taken, full) := BatchBuilder.appendAll c b run
  let (made, left) := c.finish full
  ((taken, made, c.length left), left)

theorem Lawful.sealRun {holding : List (Option α) → c.Builder}
    {column : List (Option α) → Column} (h : c.Lawful holding column) {run : List (Option α)}
    (hrun : run.length ≤ maxOffset) :
    (c.sealRun run).run (holding []) = ((.ok (), .ok (column run), 0), holding []) := by
  have htaken := h.appendAll [] run (by simpa using hrun)
  have hmade := h.finish run hrun
  have hlength := h.length []
  simp [Codec.sealRun, StateT.run, htaken, hmade, hlength]

end Codec

/-- However often builders are sealed, every column is that of the run of values behind it, as
if nothing had come before, and nothing is left. So it is for the builders of the registered
kinds and for those of lists, of validity bits and of unions that they are made of. -/
theorem sealed_runs {k : Kind} (hk : k ∈ Kind.registered) {type : Primitive} {n : Nat}
    (capacity : Nat) {valueRuns : List (List (Option k.Value))}
    (hvalues : ∀ run ∈ valueRuns, run.length ≤ 2 ^ 31 - 1)
    (rowRuns : List (List (Option (Vector type.Native n)))) (bitRuns : List (List Bool))
    {unionRuns : List UnionEntries.Run} (hunions : ∀ run ∈ unionRuns, run.Counted) :
    (∃ columns : List Column, valueRuns.map k.codec.encodeOpt = columns.map .ok ∧
      (valueRuns.mapM k.codec.sealRun).run (k.codec.withCapacity capacity) =
        (columns.map fun column => (.ok (), .ok column, 0), k.codec.withCapacity 0)) ∧
    (rowRuns.mapM FixedSizeListBuilder.sealRun).run (.withCapacity capacity) =
      (rowRuns.map fun rows => (FixedSizeListBuilder.column type rows, 0), {}) ∧
    (bitRuns.mapM ValidityBuilder.sealRun).run (.withCapacity capacity) =
      (bitRuns.map fun bits => (if bits.all id then none else some bits, 0), {}) ∧
    (unionRuns.mapM UnionEntries.sealRun).run (.withCapacity capacity) =
      (unionRuns.map fun run => (run.entries.map fun _ => .ok (), run.union?, 0), {}) := by
  obtain ⟨holding, column, hlawful, hencode⟩ := Kind.exists_encodeOpt_eq hk
  refine ⟨⟨valueRuns.map column, ?_, ?_⟩, ?_, ?_, ?_⟩
  · rw [List.map_map]
    apply List.map_congr_left
    intro run hrun
    exact hencode run (hvalues run hrun)
  · -- A lawful builder starts out as it is after every column, whatever room it was made with.
    rw [hlawful.withCapacity, hlawful.withCapacity, List.map_map]
    apply mapM_of_restored
    intro run hrun
    exact hlawful.sealRun (hvalues run hrun)
  · apply mapM_of_restored
    intro rows _
    exact FixedSizeListBuilder.sealRun_fresh rows
  · apply mapM_of_restored
    intro bits _
    exact ValidityBuilder.sealRun_fresh bits
  · apply mapM_of_restored
    intro run hrun
    exact UnionEntries.sealRun_fresh (hunions run hrun)

/-- A first run that leaves null markers, unset bits and zeros, and what comes after it. -/
theorem sealed_runs_absent_first :
    Kind.rotation3D ∈ Kind.registered ∧
    let arms := DenseUnion.arms [.required "v" (.scalar .uint8)]
    let rotations : List (List (Option Rotation3D)) := [[none], [some (.axisAngle ⟨.zero, ⟨.one⟩⟩)]]
    let bytes : List (List (Option (Vector Primitive.uint8.Native 2))) := [[none], [some #v[7, 9]]]
    let unions : List UnionEntries.Run := [⟨[none, none], arms, [.scalar .uint8 []]⟩,
      ⟨[some (1, 0), none], arms, [.scalar .uint8 [.value 7]]⟩]
    (∀ run ∈ rotations, run.length ≤ 2 ^ 31 - 1) ∧ (∀ run ∈ unions, run.Counted) ∧
    (∃ columns : List Column, rotations.map Rotation3D.codec.encodeOpt = columns.map .ok ∧
      ((rotations.mapM Rotation3D.codec.sealRun).run (Rotation3D.codec.withCapacity 4)).1 =
        columns.map fun column => (.ok (), .ok column, 0)) ∧
    ((bytes.mapM FixedSizeListBuilder.sealRun).run (.withCapacity 4)).1 =
      [(FixedSizeListBuilder.column (n := 2) .uint8 [none], 0),
        (FixedSizeListBuilder.column .uint8 [some #v[7, 9]], 0)] ∧
    (([[false], [true]].mapM ValidityBuilder.sealRun).run (.withCapacity 4)).1 =
      [(some [false], 0), (none, 0)] ∧
    ((unions.mapM UnionEntries.sealRun).run (.withCapacity 4)).1 =
      [([.ok (), .ok ()],
          .ok (.union arms .dense [0, 0] [0, 1] [.null 2, .scalar .uint8 []]), 0),
        ([.ok (), .ok ()],
          .ok (.union arms .dense [1, 0] [0, 0] [.null 1, .scalar .uint8 [.value 7]]), 0)] := by
  have hregistered : Kind.rotation3D ∈ Kind.registered := by decide
  refine ⟨hregistered, ?_⟩
  intro arms rotations bytes unions
  have hrotations : ∀ run ∈ rotations, run.length ≤ 2 ^ 31 - 1 := by simp [rotations]
  have hunions : ∀ run ∈ unions, run.Counted := by
    intro run hrun
    obtain rfl | rfl : run = _ ∨ run = _ := by simpa [unions] using hrun
    · exact ⟨by decide, by simp⟩
    · exact ⟨by decide, by simp⟩
  obtain ⟨⟨columns, hencode, hvalues⟩, hrows, hbits, hentries⟩ :=
    sealed_runs hregistered 4 hrotations bytes [[false], [true]] hunions
  exact ⟨hrotations, hunions, ⟨columns, hencode, congrArg Prod.fst hvalues⟩,
    congrArg Prod.fst hrows, congrArg Prod.fst hbits, congrArg Prod.fst hentries⟩

end SpatialColumns
