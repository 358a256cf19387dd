import Mathlib.Data.List.Forall2
import SpatialColumns.Column.DenseUnion
import SpatialColumns.Proofs.Column.FixedSizeList

/-!
# Dense unions, written and read

Every entry takes the next slot of its arm, so its offset is the number of
earlier entries of the same type id. An arm then has exactly as many slots as it
has entries: every offset lies inside its arm, and the slot that an entry points
at holds the value that the entry was recorded for.
-/

namespace SpatialColumns

namespace DenseUnion

/-- The offsets of entries that each take the next slot of their arm. -/
def offsetsOf (typeIds : List Int8) : List Int32 :=
  typeIds.mapIdx fun entry typeId => Int32.ofNat ((typeIds.take entry).count typeId)

@[simp] theorem length_offsetsOf (typeIds : List Int8) :
    (offsetsOf typeIds).length = typeIds.length := by
  simp [offsetsOf]

theorem getElem_offsetsOf (typeIds : List Int8) {entry : Nat}
    (hentry : entry < (offsetsOf typeIds).length) (hlt : entry < typeIds.length) :
    (offsetsOf typeIds)[entry] = Int32.ofNat ((typeIds.take entry).count typeIds[entry]) := by
  simp [offsetsOf]

/-- A further entry moves no earlier one. -/
theorem offsetsOf_concat (typeIds : List Int8) (typeId : Int8) :
    offsetsOf (typeIds ++ [typeId]) =
      offsetsOf typeIds ++ [Int32.ofNat (typeIds.count typeId)] := by
  apply List.ext_getElem (by simp)
  intro entry hentry _
  have hle : entry ≤ typeIds.length := by simpa [Nat.lt_succ_iff] using hentry
  rw [getElem_offsetsOf _ _ (by simpa using hentry), List.take_append_of_le_length hle]
  rcases Nat.lt_or_eq_of_le hle with hlt | rfl
  · simp [List.getElem_append_left, hlt, getElem_offsetsOf _ _ hlt]
  · simp

/-- Two arms behind the null markers are numbered from one. -/
theorem arms_pair (first second : Field) :
    arms [first, second] = [(nullMarkersTypeId, nullMarkersField), (1, first), (2, second)] := rfl

/-- No arm has more entries than offsets can tell apart. -/
def Countable (typeIds : List Int8) : Prop := ∀ typeId, typeIds.count typeId ≤ maxOffset

theorem countable_map {α : Type} {idOf : α → Int8} {values : List α}
    (hlength : values.length ≤ maxOffset) : Countable (values.map idOf) := by
  intro typeId
  calc
    (values.map idOf).count typeId ≤ (values.map idOf).length := List.count_le_length
    _ ≤ maxOffset := by rwa [List.length_map]

/-- Before an entry there are fewer entries of its arm than in all. -/
theorem count_take_lt {typeIds : List Int8} {entry : Nat} (hentry : entry < typeIds.length) :
    (typeIds.take entry).count typeIds[entry] < typeIds.count typeIds[entry] := by
  have hsplit : typeIds.take (entry + 1) = typeIds.take entry ++ [typeIds[entry]] := by simp
  have hle : (typeIds.take (entry + 1)).count typeIds[entry] ≤ typeIds.count typeIds[entry] :=
    (List.take_sublist _ _).count_le _
  rw [hsplit, List.count_append, List.count_singleton_self] at hle
  omega

/-- Every number below the count of a type id is that of the entries before one of its own. -/
theorem exists_entry_of_lt_count {typeIds : List Int8} {typeId : Int8} {rank : Nat}
    (hrank : rank < typeIds.count typeId) :
    ∃ entry, ∃ hentry : entry < typeIds.length,
      typeIds[entry] = typeId ∧ (typeIds.take entry).count typeId = rank := by
  induction typeIds generalizing rank with
  | nil => simp at hrank
  | cons first typeIds ih =>
      by_cases hfirst : first = typeId
      · subst hfirst
        cases rank with
        | zero => exact ⟨0, Nat.zero_lt_succ _, rfl, rfl⟩
        | succ rank =>
            rw [List.count_cons_self] at hrank
            obtain ⟨entry, hentry, hid, hcount⟩ := ih (Nat.lt_of_succ_lt_succ hrank)
            refine ⟨entry + 1, Nat.succ_lt_succ hentry, hid, ?_⟩
            rw [List.take_succ_cons, List.count_cons_self, hcount]
      · rw [List.count_cons_of_ne hfirst] at hrank
        obtain ⟨entry, hentry, hid, hcount⟩ := ih hrank
        refine ⟨entry + 1, Nat.succ_lt_succ hentry, hid, ?_⟩
        rw [List.take_succ_cons, List.count_cons_of_ne hfirst, hcount]

end DenseUnion

namespace UnionEntries

open DenseUnion

theorem append_of_le_maxOffset (b : UnionEntries) (typeId : Int8) {length : Nat}
    (h : length ≤ maxOffset) : b.append typeId length = (.ok (), b.record typeId length) := by
  rw [append, refusal, if_pos h]

theorem appendNull_of_le_maxOffset {b : UnionEntries} (h : b.nullMarkers ≤ maxOffset) :
    b.appendNull = (.ok (), b.recordNull) := by
  rw [appendNull, refusal, if_pos h]

/-- An entry that would point beyond the largest offset changes nothing. -/
theorem append_of_maxOffset_lt (b : UnionEntries) (typeId : Int8) {length : Nat}
    (h : maxOffset < length) : b.append typeId length = (.error (.armTooLong length), b) := by
  rw [append, refusal, if_neg (Nat.not_le_of_lt h)]

theorem appendNull_of_maxOffset_lt {b : UnionEntries} (h : maxOffset < b.nullMarkers) :
    b.appendNull = (.error (.armTooLong b.nullMarkers), b) := by
  rw [appendNull, refusal, if_neg (Nat.not_le_of_lt h)]

/-- The builder that was given an entry of each type id in turn. -/
def holding (typeIds : List Int8) : UnionEntries :=
  ⟨typeIds.toArray, (offsetsOf typeIds).toArray, typeIds.count nullMarkersTypeId⟩

@[simp] theorem length_holding (typeIds : List Int8) :
    (holding typeIds).length = typeIds.length := by
  simp [length, holding]

theorem record_holding (typeIds : List Int8) {typeId : Int8}
    (h : typeId ≠ nullMarkersTypeId) :
    (holding typeIds).record typeId (typeIds.count typeId) = holding (typeIds ++ [typeId]) := by
  simp [record, holding, offsetsOf_concat, List.count_append, h]

theorem recordNull_holding (typeIds : List Int8) :
    (holding typeIds).recordNull = holding (typeIds ++ [nullMarkersTypeId]) := by
  simp [recordNull, record, holding, offsetsOf_concat, List.count_append]

@[simp] theorem finish_holding (typeIds : List Int8) (arms : List (Int8 × Field))
    (children : List Column) :
    (holding typeIds).finish arms children =
      (Column.union? arms .dense typeIds (offsetsOf typeIds)
        (.null (typeIds.count nullMarkersTypeId) :: children), holding []) := by
  simp [finish, holding, offsetsOf]

end UnionEntries

namespace Column

open DenseUnion

/-! ## Assembly -/

/-- A child that has a slot for every entry of its arm. -/
structure CountsEntries (typeIds : List Int8) (arm : Int8 × Field) (child : Column) : Prop where
  length : child.length = typeIds.count arm.1
  room : child.length ≤ maxOffset

/-- A child that has a slot for every entry of its arm, and nothing beyond. -/
structure HoldsEntries (typeIds : List Int8) (arm : Int8 × Field) (child : Column) : Prop
    extends CountsEntries typeIds arm child where
  fitted : child.fitted? = some child

variable {typeIds : List Int8} {arms : List (Int8 × Field)} {children : List Column}

/-- Null markers have no slots to lose. -/
theorem holdsEntries_null (hroom : Countable typeIds) :
    HoldsEntries typeIds (nullMarkersTypeId, nullMarkersField)
      (null (typeIds.count nullMarkersTypeId)) where
  length := rfl
  room := hroom _
  fitted := rfl

theorem cutAll?_of_holdsEntries (h : List.Forall₂ (HoldsEntries typeIds) arms children) :
    cutAll? none children = some children := by
  induction h with
  | nil => rfl
  | cons hchild _ ih =>
      have hcut := hchild.fitted
      unfold fitted? at hcut
      simp [cutAll?, hcut, ih]

theorem fitted?_of_cutAll? {whole : List Column} (h : cutAll? none children = some whole) :
    List.Forall₂ (fun child part => child.fitted? = some part) children whole := by
  induction children generalizing whole with
  | nil =>
      cases h
      exact .nil
  | cons child children ih =>
      simp only [cutAll?, Option.bind_eq_bind, Option.bind_eq_some_iff, Option.pure_def,
        Option.some.injEq] at h
      obtain ⟨part, hpart, parts, hparts, rfl⟩ := h
      exact .cons hpart (ih hparts)

/-- The length kept for a type id is the number of its entries. -/
theorem lookup_armLengths (h : List.Forall₂ (CountsEntries typeIds) arms children)
    {typeId : Int8} (hmem : typeId ∈ arms.map (·.1)) :
    (armLengths arms children).lookup typeId = some (Int32.ofNat (typeIds.count typeId)) := by
  induction h with
  | nil => simp at hmem
  | @cons arm child arms children hchild _ ih =>
      have hlt : child.length < 2 ^ 31 := by
        have := hchild.room
        unfold maxOffset at this
        omega
      -- The least number of 32 bits would stand for a type id without an arm.
      have hkept : Int32.ofNat child.length ≠ Int32.minValue := by
        intro heq
        have := congrArg Int32.toInt heq
        rw [Int32.toInt_ofNat_of_lt hlt] at this
        simp at this
      have hcons : armLengths (arm :: arms) (child :: children) =
          (arm.1, Int32.ofNat child.length) :: armLengths arms children := by
        simp [armLengths, hkept]
      rw [hcons, List.lookup_cons]
      by_cases heq : typeId = arm.1
      · subst heq
        simp [hchild.length]
      · have htail : typeId ∈ arms.map (·.1) := by simpa [heq] using hmem
        rw [beq_false_of_ne heq]
        exact ih htail

theorem count_le_maxOffset (h : List.Forall₂ (CountsEntries typeIds) arms children)
    {typeId : Int8} (hmem : typeId ∈ arms.map (·.1)) : typeIds.count typeId ≤ maxOffset := by
  induction h with
  | nil => simp at hmem
  | cons hchild _ ih =>
      rcases List.mem_cons.mp hmem with rfl | htail
      · exact hchild.length ▸ hchild.room
      · exact ih htail

/-- An entry points at a slot that its arm has. -/
theorem entryInRange_of_countsEntries (h : List.Forall₂ (CountsEntries typeIds) arms children)
    {entry : Nat} (hentry : entry < typeIds.length) (hmem : typeIds[entry] ∈ arms.map (·.1)) :
    entryInRange (armLengths arms children)
      (typeIds[entry], Int32.ofNat ((typeIds.take entry).count typeIds[entry])) = true := by
  have hlt := count_take_lt hentry
  have hle := count_le_maxOffset h hmem
  unfold maxOffset at hle
  have hoffset : (Int32.ofNat ((typeIds.take entry).count typeIds[entry])).toInt =
      (typeIds.take entry).count typeIds[entry] := Int32.toInt_ofNat_of_lt (by omega)
  have hlength : (Int32.ofNat (typeIds.count typeIds[entry])).toInt =
      typeIds.count typeIds[entry] := Int32.toInt_ofNat_of_lt (by omega)
  simp only [entryInRange, lookup_armLengths h hmem, hoffset, hlength]
  simp [hlt]

/-- Arms that have a slot for every entry make up a union. -/
theorem union?_of_countsEntries {whole : List Column}
    (h : List.Forall₂ (CountsEntries typeIds) arms children)
    (hids : ∀ typeId ∈ typeIds, typeId ∈ arms.map (·.1))
    (hwhole : cutAll? none children = some whole) :
    union? arms .dense typeIds (offsetsOf typeIds) children =
      .ok (union arms .dense typeIds (offsetsOf typeIds) whole) := by
  have hknown : (typeIds.all fun typeId =>
      ((armLengths arms children).lookup typeId).isSome) = true := by
    rw [List.all_eq_true]
    intro typeId hmem
    rw [lookup_armLengths h (hids typeId hmem)]
    rfl
  have hrange : (typeIds.zip (offsetsOf typeIds)).all
      (entryInRange (armLengths arms children)) = true := by
    rw [List.all_eq_true]
    intro pair hmem
    obtain ⟨entry, hentry, rfl⟩ := List.getElem_of_mem hmem
    have hlt : entry < typeIds.length := by simpa using hentry
    rw [List.getElem_zip, getElem_offsetsOf _ _ hlt]
    exact entryInRange_of_countsEntries h hlt (hids _ (List.getElem_mem hlt))
  unfold union?
  simp [h.length_eq, entryCountDefect?, hknown, hrange, hwhole]

theorem union?_of_holdsEntries (h : List.Forall₂ (HoldsEntries typeIds) arms children)
    (hids : ∀ typeId ∈ typeIds, typeId ∈ arms.map (·.1)) :
    union? arms .dense typeIds (offsetsOf typeIds) children =
      .ok (union arms .dense typeIds (offsetsOf typeIds) children) :=
  union?_of_countsEntries (h.imp fun _ _ hchild => hchild.toCountsEntries) hids
    (cutAll?_of_holdsEntries h)

/-- In a union that is made no arm has more entries than offsets can tell apart: the one that
is one too many would have to lie below the length of its arm, which is no larger. -/
theorem countable_of_union? {made : Column}
    (h : union? arms .dense typeIds (offsetsOf typeIds) children = .ok made) :
    Countable typeIds := by
  have hrange : (typeIds.zip (offsetsOf typeIds)).all
      (entryInRange (armLengths arms children)) = true := by
    simp only [union?] at h
    grind
  intro typeId
  by_contra hcount
  obtain ⟨entry, hentry, hid, hrank⟩ := exists_entry_of_lt_count (Nat.lt_of_not_le hcount)
  have hmem : (typeId, Int32.ofNat maxOffset) ∈ typeIds.zip (offsetsOf typeIds) := by
    rw [List.mem_iff_getElem]
    refine ⟨entry, by simp [hentry], ?_⟩
    rw [List.getElem_zip, getElem_offsetsOf _ _ hentry, hid, hrank]
  have hlast := List.all_eq_true.mp hrange _ hmem
  simp only [entryInRange] at hlast
  split at hlast
  next length _ =>
    have hlength := length.toInt_lt
    have hoffset : (Int32.ofNat maxOffset).toInt = 2 ^ 31 - 1 := by decide
    simp only [hoffset, Bool.and_eq_true, decide_eq_true_eq] at hlast
    omega
  next => cases hlast

/-! ## Reading -/

variable {α : Type} {typeIdOf : Option α → Int8}

/-- Every entry of a list of values, with its type id and slot. -/
theorem getElem_unionEntries (hroom : Countable typeIds) {entry : Nat}
    (hentry : entry < (unionEntries .dense typeIds (offsetsOf typeIds)).length)
    (hlt : entry < typeIds.length) :
    (unionEntries .dense typeIds (offsetsOf typeIds))[entry] =
      (typeIds[entry], (typeIds.take entry).count typeIds[entry]) := by
  have hcount : (typeIds.take entry).count typeIds[entry] < 2 ^ 31 := by
    have hle := Nat.lt_of_lt_of_le (count_take_lt hlt) (hroom _)
    unfold maxOffset at hle
    omega
  have hslot : slotIndex (Int32.ofNat ((typeIds.take entry).count typeIds[entry])) =
      (typeIds.take entry).count typeIds[entry] := rowSize_ofNat hcount
  simp [unionEntries, List.getElem_zip, getElem_offsetsOf _ _ hlt, hslot]

/-- A union is read if what every present item stands for is found in its arm. -/
theorem unionValues_of_resolve {β : Type} {items : List (Option α)} {f : α → β}
    {datatype : String} {resolve : Int8 → Nat → Option (Except DecodeError β)}
    (hroom : Countable (items.map typeIdOf)) (hnone : typeIdOf none = nullMarkersTypeId)
    (hsome : ∀ item, typeIdOf (some item) ≠ nullMarkersTypeId)
    (hresolve : ∀ entry, (hentry : entry < items.length) → ∀ item,
      items[entry] = some item →
        resolve (typeIdOf (some item))
          (((items.take entry).map typeIdOf).count (typeIdOf (some item))) =
        some (.ok (f item))) :
    unionValues datatype (unionEntries .dense (items.map typeIdOf)
      (offsetsOf (items.map typeIdOf))) resolve = .ok (items.map (Option.map f)) := by
  apply mapM_eq_ok (by simp [unionEntries])
  intro entry hentry hlt
  have hlt : entry < items.length := by simpa using hlt
  rw [getElem_unionEntries hroom hentry (by simpa using hlt)]
  cases hitem : items[entry] with
  | none => simp [hitem, hnone]
  | some item =>
      have hfound := hresolve entry hlt item hitem
      simp only [List.getElem_map, hitem, hsome item, if_false, ← List.map_take, hfound]
      rfl

end Column

namespace DenseUnion

/-! ## Arms -/

variable {α β : Type} {typeIdOf : Option α → Int8} {typeId : Int8}
  {select : Option α → Option β}

/-- The slots of the arm that the selected values go to. -/
def slotsOf (select : Option α → Option β) (values : List (Option α)) : List (Option β) :=
  (values.filterMap select).map some

theorem slotsOf_concat (select : Option α → Option β) (values : List (Option α))
    (value : Option α) :
    slotsOf select (values ++ [value]) =
      slotsOf select values ++ (select value).toList.map some := by
  rw [slotsOf, List.filterMap_append, List.map_append]
  cases h : select value <;> simp [slotsOf, h]

/-- No slot of an arm is null, whatever null slots would be filled with. -/
theorem map_ofOption_slotsOf (filler : β) (values : List (Option α)) :
    (slotsOf select values).map (Slot.ofOption filler) =
      (values.filterMap select).map Slot.value := by
  rw [slotsOf, List.map_map]
  rfl

/-- An arm has no more slots than there are values. -/
theorem length_slotsOf_le_length (select : Option α → Option β) (values : List (Option α)) :
    (slotsOf select values).length ≤ values.length := by
  rw [slotsOf, List.length_map]
  exact List.length_filterMap_le _ _

/-- The entries of an arm are the values that it selects. -/
theorem length_slotsOf (hselect : ∀ value, typeIdOf value = typeId ↔ (select value).isSome = true)
    (values : List (Option α)) :
    (slotsOf select values).length = (values.map typeIdOf).count typeId := by
  rw [slotsOf, List.length_map, List.length_filterMap_eq_countP, List.count, List.countP_map]
  congr 1
  funext value
  rw [Function.comp_apply, Bool.eq_iff_iff, beq_iff_eq]
  exact (hselect value).symm

/-- An arm holds a selected value behind those that were selected before. -/
theorem armValue_slotsOf (hselect : ∀ value, typeIdOf value = typeId ↔ (select value).isSome = true)
    {values : List (Option α)} {entry : Nat} (hentry : entry < values.length) {value : β}
    (hvalue : select values[entry] = some value) (datatype : String) :
    Column.armValue (slotsOf select values).toArray
      (((values.take entry).map typeIdOf).count typeId) datatype = .ok value := by
  have hsplit : slotsOf select values = slotsOf select (values.take entry) ++
      some value :: slotsOf select (values.drop (entry + 1)) := by
    calc
      slotsOf select values =
          slotsOf select (values.take entry ++ values[entry] :: values.drop (entry + 1)) := by
        rw [← List.drop_eq_getElem_cons hentry, List.take_append_drop]
      _ = _ := by
        rw [slotsOf, List.filterMap_append, List.filterMap_cons_some hvalue, List.map_append]
        rfl
  rw [← length_slotsOf hselect, hsplit]
  simp [Column.armValue]

/-- The entries of an arm can be counted like those of the column. -/
theorem length_slotsOf_le
    (hselect : ∀ value, typeIdOf value = typeId ↔ (select value).isSome = true)
    {values : List (Option α)} (hroom : Countable (values.map typeIdOf)) :
    (slotsOf select values).length ≤ maxOffset := by
  rw [length_slotsOf hselect]
  exact hroom typeId

/-- An entry can be recorded as long as there are fewer than can be counted. -/
theorem refusal_count {typeIds : List Int8} (typeId : Int8) (hroom : Countable typeIds) :
    refusal (typeIds.count typeId) = none :=
  if_pos (hroom typeId)

end DenseUnion

end SpatialColumns
