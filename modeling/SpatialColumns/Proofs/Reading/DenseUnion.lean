import SpatialColumns.Proofs.Column.DenseUnion
import SpatialColumns.Proofs.Reading.Vector

/-!
# Dense unions, read row by row

The unions here have two arms behind the null markers. An entry is read off the slot
of the arm that it points at, and if there is no such slot, or nothing in it, decoding
fails as well.
-/

namespace SpatialColumns

variable {α β γ : Type}

namespace Cell

variable {wrapFirst : α → γ} {wrapSecond : β → γ} {readFirst : Cell → Option (Option α)}
  {readSecond : Cell → Option (Option β)} {cell : Cell} {value : Option γ}

/-- What an entry of a union with two arms is read as: a null marker as absent, and any
other entry as the value that it points at, which has to be there. -/
inductive ReadAsPair (wrapFirst : α → γ) (wrapSecond : β → γ)
    (readFirst : Cell → Option (Option α)) (readSecond : Cell → Option (Option β)) :
    Cell → Option γ → Prop where
  | null (slot : Nat) (target : Option Cell) :
    ReadAsPair wrapFirst wrapSecond readFirst readSecond
      (.entry DenseUnion.nullMarkersTypeId slot target) none
  | first {slot : Nat} {target : Cell} {value : α} (h : readFirst target = some (some value)) :
    ReadAsPair wrapFirst wrapSecond readFirst readSecond (.entry 1 slot (some target))
      (some (wrapFirst value))
  | second {slot : Nat} {target : Cell} {value : β} (h : readSecond target = some (some value)) :
    ReadAsPair wrapFirst wrapSecond readFirst readSecond (.entry 2 slot (some target))
      (some (wrapSecond value))

theorem target?_eq_some_iff {read : Cell → Option (Option α)} {target : Option Cell} {value : α} :
    target? read target = some value ↔
      ∃ found, target = some found ∧ read found = some (some value) := by
  simp [target?, Option.bind_eq_some_iff, Option.join_eq_some_iff]

theorem unionPair?_eq_some_iff :
    unionPair? wrapFirst wrapSecond readFirst readSecond cell = some value ↔
      ReadAsPair wrapFirst wrapSecond readFirst readSecond cell value := by
  constructor
  · intro h
    cases cell with
    | entry typeId slot target =>
        simp only [unionPair?] at h
        split at h
        next hnull =>
          cases h
          exact hnull ▸ .null slot target
        split at h
        next hone =>
          obtain ⟨inner, htarget, rfl⟩ := Option.map_eq_some_iff.mp h
          obtain ⟨found, rfl, hread⟩ := target?_eq_some_iff.mp htarget
          exact hone ▸ .first hread
        split at h
        next htwo =>
          obtain ⟨inner, htarget, rfl⟩ := Option.map_eq_some_iff.mp h
          obtain ⟨found, rfl, hread⟩ := target?_eq_some_iff.mp htarget
          exact htwo ▸ .second hread
        next => cases h
    | _ => cases h
  · intro h
    cases h with
    | null slot target => simp [unionPair?]
    | first h => simp [unionPair?, target?, DenseUnion.nullMarkersTypeId, h]
    | second h => simp [unionPair?, target?, DenseUnion.nullMarkersTypeId, h]

theorem unionPair?_of_imp {readFirst' : Cell → Option (Option α)}
    {readSecond' : Cell → Option (Option β)}
    (hfirst : ∀ cell value, readFirst cell = some value → readFirst' cell = some value)
    (hsecond : ∀ cell value, readSecond cell = some value → readSecond' cell = some value)
    (h : unionPair? wrapFirst wrapSecond readFirst readSecond cell = some value) :
    unionPair? wrapFirst wrapSecond readFirst' readSecond' cell = some value := by
  rw [unionPair?_eq_some_iff] at h ⊢
  cases h with
  | null slot target => exact .null slot target
  | first h => exact .first (hfirst _ _ h)
  | second h => exact .second (hsecond _ _ h)

/-- An entry of a union is absent exactly if it is a null marker. -/
theorem unionPair?_absent
    (h : unionPair? wrapFirst wrapSecond readFirst readSecond cell = some value) :
    value = none ↔ cell.isAbsent = true := by
  cases unionPair?_eq_some_iff.mp h with
  | null slot target => simp [isAbsent]
  | first h => simp [isAbsent, DenseUnion.nullMarkersTypeId]
  | second h => simp [isAbsent, DenseUnion.nullMarkersTypeId]

/-- Where an entry is read, it resolves. -/
theorem resolves_of_unionPair?
    (hfirst : ∀ cell value, readFirst cell = some (some value) → cell.isNull = false)
    (hsecond : ∀ cell value, readSecond cell = some (some value) → cell.isNull = false)
    (h : unionPair? wrapFirst wrapSecond readFirst readSecond cell = some value) :
    cell.resolves = true := by
  cases unionPair?_eq_some_iff.mp h with
  | null slot target => simp [resolves]
  | first hread => simp [resolves, hfirst _ _ hread]
  | second hread => simp [resolves, hsecond _ _ hread]

end Cell

namespace Column

variable {name : String} {wrapFirst : α → γ} {wrapSecond : β → γ}
  {readFirst : Cell → Option (Option α)} {readSecond : Cell → Option (Option β)}
  {firsts : List (Option α)} {seconds : List (Option β)}

/-- The value of a slot of one of two decoded arms. -/
def resolvePair (name : String) (wrapFirst : α → γ) (wrapSecond : β → γ)
    (firsts : Array (Option α)) (seconds : Array (Option β)) (typeId : Int8) (slot : Nat) :
    Option (Except DecodeError γ) :=
  if typeId = 1 then some ((armValue firsts slot name).map wrapFirst)
  else if typeId = 2 then some ((armValue seconds slot name).map wrapSecond)
  else none

/-- The value of one entry of a union. -/
def entryValue (name : String) (resolve : Int8 → Nat → Option (Except DecodeError γ))
    (entry : Int8 × Nat) : Except DecodeError (Option γ) :=
  if entry.1 = DenseUnion.nullMarkersTypeId then .ok none
  else match resolve entry.1 entry.2 with
    | some value => value.map some
    | none => .error (.unknownUnionArm name entry.1)

theorem unionValues_eq_mapM (name : String) (entries : List (Int8 × Nat))
    (resolve : Int8 → Nat → Option (Except DecodeError γ)) :
    unionValues name entries resolve = entries.mapM (entryValue name resolve) := rfl

/-- The slot of an arm, if the arm has it. -/
def slotCell? (arm : Column) (slot : Nat) : Option Cell :=
  if slot < arm.length then some (arm.cell slot) else none

theorem any_slotCell? {arm : Column} {slot : Nat} :
    (arm.slotCell? slot).any (!·.isNull) = true ↔
      slot < arm.length ∧ (arm.cell slot).isNull = false := by
  unfold slotCell?
  split <;> simp_all

/-- An arm that is read is decoded slot by slot. It fails at a slot that is null, or
not there at all. -/
theorem agrees_armValue {read : Cell → Option (Option α)} {arm : Column}
    {values : List (Option α)} (hreads : arm.Reads read values) (slot : Nat) (name : String) :
    Agrees (slot < arm.length) (armValue values.toArray slot name)
      (Cell.target? read (arm.slotCell? slot)) := by
  unfold armValue slotCell?
  rw [List.getElem?_toArray, ← hreads.length]
  by_cases hslot : slot < values.length
  · rw [List.getElem?_eq_getElem hslot, if_pos hslot, Cell.target?, Option.bind_some,
      hreads.row slot hslot]
    cases values[slot] with
    | none => exact .error _ fun _ => ⟨_, _, rfl⟩
    | some value => exact .ok value
  · rw [List.getElem?_eq_none (Nat.le_of_not_lt hslot), if_neg hslot]
    exact .error _ fun h => absurd h hslot

/-- A dense union of null markers and two arms. -/
abbrev pairUnion (fields : List Field) (typeIds : List Int8) (offsets : List Int32) (count : Nat)
    (firstArm secondArm : Column) : Column :=
  union (DenseUnion.arms fields) .dense typeIds offsets [null count, firstArm, secondArm]

/-- A union with two arms behind the null markers, taken apart. -/
theorem eq_union_pair_of_typed {c : Column} {first second : Field} (hc : c.Throughout Typed)
    (htype : c.datatype = DenseUnion.datatype [first, second]) :
    ∃ typeIds offsets count firstArm secondArm,
      c = pairUnion [first, second] typeIds offsets count firstArm secondArm ∧
      firstArm.datatype = first.type ∧ secondArm.datatype = second.type := by
  obtain ⟨typeIds, offsets, children, rfl, htypes⟩ := eq_union_of_typed hc htype
  simp only [DenseUnion.arms_pair, List.map_cons, List.map_nil, List.map_eq_cons_iff,
    List.map_eq_nil_iff] at htypes
  obtain ⟨nulls, _, rfl, hnulls, firstArm, _, rfl, hfirst, secondArm, _, rfl, hsecond, rfl⟩ :=
    htypes
  obtain ⟨count, rfl⟩ : ∃ count, nulls = null count := by
    cases nulls <;>
      simp only [datatype, DenseUnion.nullMarkersField, Field.optional, Field.plain,
        reduceCtorEq] at hnulls
    exact ⟨_, rfl⟩
  exact ⟨typeIds, offsets, count, firstArm, secondArm, rfl, hfirst, hsecond⟩

/-- If its parts fit together, there is an offset for every entry. -/
theorem eq_union_pair_of_datatype {c : Column} {first second : Field}
    (haligned : c.Throughout Aligned) (htype : c.datatype = DenseUnion.datatype [first, second]) :
    ∃ typeIds offsets count firstArm secondArm,
      c = pairUnion [first, second] typeIds offsets count firstArm secondArm ∧
      firstArm.datatype = first.type ∧ secondArm.datatype = second.type ∧
      offsets.length = typeIds.length := by
  obtain ⟨typeIds, offsets, count, firstArm, secondArm, rfl, hfirst, hsecond⟩ :=
    eq_union_pair_of_typed (haligned.imp fun _ => Aligned.typed) htype
  obtain ⟨-, hoffsets⟩ := haligned.self
  exact ⟨typeIds, offsets, count, firstArm, secondArm, rfl, hfirst, hsecond, hoffsets⟩

variable {first second : Field} {typeIds : List Int8} {offsets : List Int32} {count : Nat}
  {firstArm secondArm : Column}

/-- As many entries as type ids, if each has an offset. -/
theorem length_unionEntries_dense (h : offsets.length = typeIds.length) :
    (unionEntries .dense typeIds offsets).length = typeIds.length := by
  simp [unionEntries, h]

/-- What an entry of the union points at. -/
def pairTarget (count : Nat) (firstArm secondArm : Column) (typeId : Int8) (slot : Nat) :
    Option Cell :=
  if typeId = 0 then (null count).slotCell? slot
  else if typeId = 1 then firstArm.slotCell? slot
  else if typeId = 2 then secondArm.slotCell? slot
  else none

theorem cell_union_pair {row : Nat} (hrow : row < (unionEntries .dense typeIds offsets).length) :
    (pairUnion [first, second] typeIds offsets count firstArm secondArm).cell row =
      let (typeId, slot) := (unionEntries .dense typeIds offsets)[row]
      .entry typeId slot (pairTarget count firstArm secondArm typeId slot) := by
  rw [cell_union _ _ _ _ _ hrow]
  simp only [DenseUnion.arms_pair, List.map_cons, List.map_nil, target, pairTarget, slotCell?,
    DenseUnion.nullMarkersTypeId, eq_comm]

/-- An entry that points at a slot points at one of the arm that it names, unless it is a
null marker. -/
theorem pointed_pair
    (h : (pairUnion [first, second] typeIds offsets count firstArm secondArm).Pointed)
    (hfirst : first.type ≠ .null) (hsecond : second.type ≠ .null) {typeId : Int8} {slot : Nat}
    (hentry : (typeId, slot) ∈ unionEntries .dense typeIds offsets) :
    typeId = 0 ∨ typeId = 1 ∧ slot < firstArm.length ∨ typeId = 2 ∧ slot < secondArm.length := by
  obtain ⟨arm, harm, hid, hslot⟩ := h _ hentry
  simp only [DenseUnion.arms_pair, List.zip_cons_cons, List.zip_nil_right, List.mem_cons,
    List.not_mem_nil, or_false] at harm
  rcases harm with rfl | rfl | rfl
  · exact .inl hid.symm
  · exact .inr (.inl ⟨hid.symm, hslot.resolve_left hfirst⟩)
  · exact .inr (.inr ⟨hid.symm, hslot.resolve_left hsecond⟩)

/-- An entry decodes to what it is read as. -/
theorem agrees_entry (hfirsts : firstArm.Reads readFirst firsts)
    (hseconds : secondArm.Reads readSecond seconds) (typeId : Int8) (slot : Nat) :
    Agrees (typeId = 0 ∨ typeId = 1 ∧ slot < firstArm.length ∨
        typeId = 2 ∧ slot < secondArm.length)
      (entryValue name (resolvePair name wrapFirst wrapSecond firsts.toArray seconds.toArray)
        (typeId, slot))
      (Cell.unionPair? wrapFirst wrapSecond readFirst readSecond
        (.entry typeId slot (pairTarget count firstArm secondArm typeId slot))) := by
  unfold Cell.unionPair? entryValue resolvePair pairTarget DenseUnion.nullMarkersTypeId
  by_cases hnull : typeId = 0
  · simp only [hnull, if_true]
    exact .ok none
  by_cases hone : typeId = 1
  · have harm := ((agrees_armValue hfirsts slot name).map wrapFirst).map some
    rw [Option.map_map] at harm
    simp only [if_neg hnull, if_pos hone]
    exact harm.imp fun h => by simpa [hone] using h
  by_cases htwo : typeId = 2
  · have harm := ((agrees_armValue hseconds slot name).map wrapSecond).map some
    rw [Option.map_map] at harm
    simp only [if_neg hnull, if_neg hone, if_pos htwo]
    exact harm.imp fun h => by simpa [htwo] using h
  · simp only [if_neg hnull, if_neg hone, if_neg htwo]
    exact .error _ fun h => by simp [hnull, hone, htwo] at h

/-- A union of which the arms are decoded decodes to what its entries are read as. -/
theorem decodesTo_unionValues (hoffsets : offsets.length = typeIds.length)
    (hfirst : first.type ≠ .null) (hsecond : second.type ≠ .null)
    (hfirsts : firstArm.Reads readFirst firsts) (hseconds : secondArm.Reads readSecond seconds) :
    let c := pairUnion [first, second] typeIds offsets count firstArm secondArm
    c.DecodesTo c.Pointed (Cell.unionPair? wrapFirst wrapSecond readFirst readSecond)
      (unionValues name (unionEntries .dense typeIds offsets)
        (resolvePair name wrapFirst wrapSecond firsts.toArray seconds.toArray)) := by
  intro c
  rw [unionValues_eq_mapM]
  refine decodesTo_mapM (length_unionEntries_dense hoffsets) fun row hrow => ?_
  rw [cell_union_pair hrow]
  refine (agrees_entry hfirsts hseconds _ _).imp fun hpointed => ?_
  exact pointed_pair hpointed hfirst hsecond (List.getElem_mem hrow)

/-- An entry that resolves is read, if its arm reads a value wherever it has one. -/
theorem isSome_unionPair?
    (hfirst : firstArm.Legible readFirst) (hsecond : secondArm.Legible readSecond)
    {row : Nat} (hrow : row < (unionEntries .dense typeIds offsets).length)
    (hresolves : ((pairUnion [first, second] typeIds offsets count firstArm secondArm).cell
      row).resolves = true) :
    (Cell.unionPair? wrapFirst wrapSecond readFirst readSecond
      ((pairUnion [first, second] typeIds offsets count firstArm secondArm).cell row)).isSome =
        true := by
  rw [cell_union_pair hrow] at hresolves ⊢
  generalize (unionEntries .dense typeIds offsets)[row] = entry at hresolves ⊢
  obtain ⟨typeId, slot⟩ := entry
  simp only [Cell.resolves, pairTarget, DenseUnion.nullMarkersTypeId] at hresolves
  simp only [Cell.unionPair?, pairTarget, DenseUnion.nullMarkersTypeId]
  by_cases hnull : typeId = 0
  · simp [hnull]
  by_cases hone : typeId = 1
  · obtain ⟨hslot, hcell⟩ : slot < firstArm.length ∧ (firstArm.cell slot).isNull = false :=
      any_slotCell?.mp (by simpa [hone] using hresolves)
    obtain ⟨value, hvalue⟩ := hfirst slot hslot hcell
    simp [hone, slotCell?, hslot, Cell.target?, hvalue]
  by_cases htwo : typeId = 2
  · obtain ⟨hslot, hcell⟩ : slot < secondArm.length ∧ (secondArm.cell slot).isNull = false :=
      any_slotCell?.mp (by simpa [htwo] using hresolves)
    obtain ⟨value, hvalue⟩ := hsecond slot hslot hcell
    simp [htwo, slotCell?, hslot, Cell.target?, hvalue]
  · simp [hnull, hone, htwo] at hresolves

/-- Where the arms have no nulls, each entry that points at a slot resolves. -/
theorem resolves_of_required (hfirst : first.nullable = false) (hsecond : second.nullable = false)
    (hfirstType : first.type ≠ .null) (hsecondType : second.type ≠ .null)
    (hcomplete : (pairUnion [first, second] typeIds offsets count firstArm secondArm).Complete)
    (hpointed : (pairUnion [first, second] typeIds offsets count firstArm secondArm).Pointed)
    {row : Nat} (hrow : row < (unionEntries .dense typeIds offsets).length) :
    ((pairUnion [first, second] typeIds offsets count firstArm secondArm).cell row).resolves =
      true := by
  rw [cell_union_pair hrow]
  have hmem := List.getElem_mem hrow
  rcases hpair : (unionEntries .dense typeIds offsets)[row] with ⟨typeId, slot⟩
  rw [hpair] at hmem
  rcases pointed_pair hpointed hfirstType hsecondType hmem with rfl | ⟨rfl, hslot⟩ | ⟨rfl, hslot⟩
  · rfl
  · have hnull : (firstArm.cell slot).isNull = false :=
      hcomplete (_, firstArm) (List.mem_cons_of_mem _ List.mem_cons_self) hfirst slot hslot
    simp [Cell.resolves, pairTarget, slotCell?, hslot, hnull]
  · have hnull : (secondArm.cell slot).isNull = false :=
      hcomplete (_, secondArm) (List.mem_cons_of_mem _ (List.mem_cons_of_mem _ List.mem_cons_self))
        hsecond slot hslot
    simp [Cell.resolves, pairTarget, slotCell?, hslot, hnull]

end Column

end SpatialColumns
