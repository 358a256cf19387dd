import SpatialColumns.Kind
import SpatialColumns.Proofs.BatchBuilder.Filling
import SpatialColumns.Proofs.Codec.Transform

/-!
# Every registered kind reads back what it writes

The codecs of the registered kinds are lawful, and their builders and values
take some memory, little enough that every list an offset of 32 bits can count
is encoded. A column of which every list row starts in time gives back all values;
where an absent value is not acceptable, the first one is named. Up to `2 ^ 27` values
all rows start in time, and one identifier behind as many absent ones is lost.
-/

namespace SpatialColumns

open DenseUnion (maxOffset)

namespace Codec

variable {α : Type} {c : Codec α}

/-- A list has no absent value, or a first one. -/
theorem present_or_first (values : List (Option α)) :
    ∃ present : List α, values = present.map some ∨
      ∃ rest, values = present.map some ++ none :: rest := by
  induction values with
  | nil => exact ⟨[], .inl rfl⟩
  | cons value values ih =>
      cases value with
      | none => exact ⟨[], .inr ⟨values, rfl⟩⟩
      | some value =>
          obtain ⟨present, rfl | ⟨rest, rfl⟩⟩ := ih
          · exact ⟨value :: present, .inl rfl⟩
          · exact ⟨value :: present, .inr ⟨rest, rfl⟩⟩

theorem allPresent_map_some (name : String) (present : List α) :
    allPresent name (present.map some) = .ok present := by
  apply Column.mapM_eq_ok (by simp)
  intro index hindex _
  simp

theorem allPresent_append_none (name : String) (present : List α) (rest : List (Option α)) :
    allPresent name (present.map some ++ none :: rest) =
      .error (.missingData name present.length) := by
  have hpresent := allPresent_map_some name present
  unfold allPresent at hpresent ⊢
  rw [List.zipIdx_append, List.mapM_append, hpresent]
  simp [bind, Except.bind]

/-- Reading without absent values succeeds with just the values that are present. -/
theorem allPresent_eq_ok_iff {name : String} {values : List (Option α)} {present : List α} :
    allPresent name values = .ok present ↔ values = present.map some := by
  constructor
  · intro hread
    obtain ⟨found, rfl | ⟨rest, rfl⟩⟩ := present_or_first values
    · rw [allPresent_map_some] at hread
      cases hread
      rfl
    · rw [allPresent_append_none] at hread
      cases hread
  · rintro rfl
    exact allPresent_map_some name present

theorem exists_allPresent_iff {name : String} {values : List (Option α)} :
    (∃ present, allPresent name values = .ok present) ↔ none ∉ values := by
  constructor
  · rintro ⟨present, hread⟩
    simp [allPresent_eq_ok_iff.mp hread]
  · intro habsent
    obtain ⟨found, rfl | ⟨rest, rfl⟩⟩ := present_or_first values
    · exact ⟨found, allPresent_map_some name found⟩
    · simp at habsent

/-- Reading without absent values fails at the first one. -/
theorem allPresent_of_first {name : String} {values : List (Option α)} {index : Nat}
    (habsent : values[index]? = some none)
    (hfirst : ∀ earlier < index, values[earlier]? ≠ some none) :
    allPresent name values = .error (.missingData name index) := by
  obtain ⟨present, rfl | ⟨rest, rfl⟩⟩ := present_or_first values
  · simp at habsent
  · rcases Nat.lt_trichotomy index present.length with hlt | rfl | hgt
    · simp [List.getElem?_append_left, hlt] at habsent
    · exact allPresent_append_none name present rest
    · exact absurd (by simp) (hfirst present.length hgt)

theorem decodeAll_of_decode {column : Column} {values : List (Option α)}
    (h : c.decode column = .ok values) : c.decodeAll column = allPresent c.name values := by
  rw [decodeAll, h]
  rfl

/-- Values are all there is to read exactly if no absent value is read among them. -/
theorem decodeAll_eq_ok_iff {column : Column} {present : List α} :
    c.decodeAll column = .ok present ↔ c.decode column = .ok (present.map some) := by
  rw [decodeAll]
  cases c.decode column with
  | error e => simp [bind, Except.bind]
  | ok values => simp [bind, Except.bind, allPresent_eq_ok_iff]

/-- A lawful codec's column reads back, with or without absent values. -/
theorem Lawful.decodeAll_column {holding : List (Option α) → c.Builder}
    {column : List (Option α) → Column} (h : c.Lawful holding column)
    {values : List (Option α)} (hlength : values.length ≤ maxOffset)
    (haddressable : (column values).Throughout Column.Addressable) :
    c.decodeAll (column values) = allPresent c.name values :=
  decodeAll_of_decode (h.decode values hlength haddressable)

end Codec

namespace Kind

/-- Every registered kind has a lawful codec that writes no nulls where no value is absent. -/
theorem lawful_without_nulls {k : Kind} (hk : k ∈ registered) :
    ∃ holding column, k.codec.Lawful holding column ∧
      ∀ values : List k.Value, (column (values.map some)).nullCount = 0 := by
  simp only [registered, List.mem_cons, List.not_mem_nil, or_false] at hk
  rcases hk with rfl | rfl | rfl | rfl | rfl | rfl | rfl | rfl | rfl
  · exact ⟨_, _, Vec3D.lawful, fun _ => Column.nullCount_eq_zero (Column.validityOf_map _ _)⟩
  · exact ⟨_, _, Quaternion.lawful, fun _ => Column.nullCount_eq_zero (Column.validityOf_map _ _)⟩
  · exact ⟨_, _, RotationAxisAngle.lawful, fun _ => Column.nullCount_eq_zero rfl⟩
  · exact ⟨_, _, Rotation3D.lawful, fun _ => rfl⟩
  · exact ⟨_, _, Scale3D.lawful, fun _ => rfl⟩
  · exact ⟨_, _, TranslationRotationScale3D.lawful, fun _ => Column.nullCount_eq_zero rfl⟩
  · exact ⟨_, _, Uuid.lawful, fun _ => Column.nullCount_eq_zero (Column.validityOf_map _ _)⟩
  · exact ⟨_, _, TranslationRotationScale3D.lawful.component fun _ => rfl,
      fun _ => Column.nullCount_eq_zero (Column.validityOf_map _ _)⟩
  · exact ⟨_, _, Uuid.lawful.component fun _ => rfl, fun _ => Column.nullCount_eq_zero
      ((Column.validityOf_map _ _).trans (Column.validityOf_map _ _))⟩

/-- Every registered kind has a lawful codec. -/
theorem lawful_of_registered {k : Kind} (hk : k ∈ registered) :
    ∃ holding column, k.codec.Lawful holding column := by
  obtain ⟨holding, column, h, -⟩ := lawful_without_nulls hk
  exact ⟨holding, column, h⟩

/-- Builders and values of the registered kinds take some memory, and not much. -/
theorem sizes_of_registered : ∀ k ∈ registered,
    (0 < k.codec.builderSize ∧ k.codec.builderSize ≤ 1264) ∧
      0 < k.codec.elementSize ∧ k.codec.elementSize ≤ 56 := by
  decide

theorem sized_of_registered {k : Kind} (hk : k ∈ registered) : k.codec.Sized :=
  ⟨(sizes_of_registered k hk).1.1, (sizes_of_registered k hk).2.1⟩

/-- As many values as an offset can count can also be paid for. -/
theorem bytesFor_le_limit {k : Kind} (hk : k ∈ registered) {count : Nat}
    (hcount : count ≤ maxOffset) : BatchBuilder.bytesFor k.codec count ≤ Size.limit := by
  obtain ⟨⟨-, hbuilder⟩, -, helement⟩ := sizes_of_registered k hk
  calc
    k.codec.builderSize + k.codec.elementSize * count ≤ 1264 + 56 * maxOffset :=
      Nat.add_le_add hbuilder (Nat.mul_le_mul helement hcount)
    _ ≤ Size.limit := by decide

/-- A lawful codec of a registered kind encodes every list of values that an offset can count. -/
theorem encodeOpt_of_lawful {k : Kind} (hk : k ∈ registered)
    {holding : List (Option k.Value) → k.codec.Builder} {column : List (Option k.Value) → Column}
    (h : k.codec.Lawful holding column) {values : List (Option k.Value)}
    (hlength : values.length ≤ maxOffset) : k.codec.encodeOpt values = .ok (column values) := by
  rw [Codec.encodeOpt, h.encodeOptIn_fst (sized_of_registered hk) _ hlength,
    Pool.raise_of_le _ _ (bytesFor_le_limit hk hlength)]
  rfl

/-- Every list of values that an offset can count is encoded, and as what. -/
theorem exists_encodeOpt_eq {k : Kind} (hk : k ∈ registered) :
    ∃ holding column, k.codec.Lawful holding column ∧
      ∀ values : List (Option k.Value), values.length ≤ maxOffset →
        k.codec.encodeOpt values = .ok (column values) := by
  obtain ⟨holding, column, h⟩ := lawful_of_registered hk
  exact ⟨holding, column, h, fun _ => encodeOpt_of_lawful hk h⟩

/-- A rotation whose floats are not all numbers, next to an absent one. -/
def oddRotations : List (Option Rotation3D) :=
  [some (.quaternion ⟨⟨0x7fc00001⟩, ⟨0x80000000⟩, ⟨0x7f800000⟩, .one⟩), none,
    some (.axisAngle ⟨.zero, ⟨⟨0xff800000⟩⟩⟩)]

/-- What a registered kind writes reads back exactly if all rows of lists in it start in time. -/
theorem exists_encodeOpt_decode_iff {k : Kind} (hk : k ∈ registered)
    {values : List (Option k.Value)} (hlength : values.length ≤ maxOffset) :
    ∃ column, k.codec.encodeOpt values = .ok column ∧
      (values.length ≤ 2 ^ 27 → column.Throughout Column.Addressable) ∧
      (k.codec.decode column = .ok values ↔ column.Throughout Column.Addressable) := by
  obtain ⟨holding, column, h, hencode⟩ := exists_encodeOpt_eq hk
  exact ⟨column values, hencode values hlength, h.addressable values,
    h.decode_eq_ok_iff hlength⟩

/-- An identifier behind `2 ^ 27` absent ones is written but not read. -/
theorem decode_encodeOpt_behind_absent (last : Uuid) :
    ∃ column, uuid.codec.encodeOpt (List.replicate (2 ^ 27) none ++ [some last]) = .ok column ∧
      ∀ values, uuid.codec.decode column ≠ .ok values := by
  have hlength : (List.replicate (2 ^ 27) none ++ [some last]).length ≤ maxOffset := by
    simp only [List.length_append, List.length_replicate, List.length_singleton]
    decide
  refine ⟨_, encodeOpt_of_lawful (k := uuid) (by decide) Uuid.lawful hlength, fun values => ?_⟩
  exact Codec.decode_vector_behind_absent (by decide) (by decide) (by decide)

end Kind

end SpatialColumns
