import Mathlib.Data.List.TakeDrop
import SpatialColumns.Column.DenseUnion

/-!
# The arms of a dense union, numbered

Arms are numbered from zero, behind the null markers. The count of all of them
is kept in 8 bits with a sign, so it is right only up to 127: with one arm more
the count is negative and no arm is left, null markers included, although there
would still be a type id for each of them.
-/

namespace SpatialColumns

namespace DenseUnion

/-- The null markers and the given arms, each with its number. -/
def numbered (fields : List Field) : List (Int8 × Field) :=
  (nullMarkersField :: fields).zipIdx.map fun entry => (Int8.ofNat entry.2, entry.1)

/-- The number of type ids below a count that is kept in 8 bits with a sign. -/
def keptIds (count : Nat) : Nat := if count % 256 < 128 then count % 256 else 0

/-! ## Type ids -/

theorem toNat_toInt_ofNat (count : Nat) : (Int8.ofNat count).toInt.toNat = keptIds count := by
  rw [Int8.toInt_ofNat', Int.bmod_def, keptIds, Int8.size]
  split <;> split <;> omega

theorem typeIdsBelow_eq (count : Nat) :
    typeIdsBelow count = (List.range (keptIds count)).map Int8.ofNat := by
  rw [typeIdsBelow, toNat_toInt_ofNat]

/-- A count is kept as it is up to 127, and nothing larger is. -/
theorem le_keptIds_iff (count : Nat) : count ≤ keptIds count ↔ count ≤ 127 := by
  unfold keptIds
  split <;> omega

/-! ## Arms -/

variable {fields : List Field}

@[simp] theorem length_numbered (fields : List Field) :
    (numbered fields).length = fields.length + 1 := by
  simp [numbered]

theorem getElem_numbered {arm : Nat} (harm : arm < (numbered fields).length)
    (hlt : arm < (nullMarkersField :: fields).length) :
    (numbered fields)[arm] = (Int8.ofNat arm, (nullMarkersField :: fields)[arm]) := by
  simp only [numbered, List.getElem_map, List.getElem_zipIdx, Nat.zero_add]

/-- As many arms are left as there are type ids below the count of all. -/
theorem arms_eq_take (fields : List Field) :
    arms fields = (numbered fields).take (keptIds (fields.length + 1)) := by
  rw [arms, typeIdsBelow_eq]
  apply List.ext_getElem
  · simp
  · intro arm harm hkept
    rw [List.getElem_take, List.getElem_zip, List.getElem_map, List.getElem_range, getElem_numbered]

/-- All arms are left exactly if all of them are at most 127. -/
theorem arms_eq_iff : arms fields = numbered fields ↔ fields.length ≤ 126 := by
  rw [arms_eq_take, List.take_eq_self_iff, length_numbered, le_keptIds_iff]
  omega

theorem length_arms_eq_iff : (arms fields).length = fields.length + 1 ↔ fields.length ≤ 126 := by
  have hkept := le_keptIds_iff (fields.length + 1)
  rw [arms_eq_take, List.length_take, length_numbered]
  omega

theorem length_arms (h : fields.length ≤ 126) : (arms fields).length = fields.length + 1 :=
  length_arms_eq_iff.mpr h

theorem getElem_arms (h : fields.length ≤ 126) {arm : Nat} (harm : arm < (arms fields).length)
    (hlt : arm < (nullMarkersField :: fields).length) :
    (arms fields)[arm] = (Int8.ofNat arm, (nullMarkersField :: fields)[arm]) := by
  simp only [arms_eq_iff.mpr h]
  exact getElem_numbered _ hlt

end DenseUnion

/-- A union is refused for the number of its children exactly if it has not one for each arm. -/
theorem Column.union?_eq_armCount_iff {arms : List (Int8 × Field)} {mode : UnionMode}
    {typeIds : List Int8} {offsets : List Int32} {children : List Column} :
    union? arms mode typeIds offsets children = .error .armCount ↔
      arms.length ≠ children.length := by
  have hother : entryCountDefect? mode typeIds offsets children ≠ some .armCount := by
    cases mode with
    | dense =>
        simp only [entryCountDefect?]
        split <;> nofun
    | sparse =>
        simp only [entryCountDefect?]
        split <;> nofun
  by_cases hcount : arms.length = children.length
  · refine iff_of_false (fun h => ?_) fun h => h hcount
    simp only [union?, hcount, ne_eq, not_true_eq_false, if_false] at h
    grind
  · exact iff_of_true (if_pos hcount) hcount

namespace DenseUnion

/-- The null markers and the arms behind them are numbered from zero. None is dropped up to 126
arms, and then a union takes one child for each; the count of more arms does not fit, and only
as many are left as there are type ids below what is kept of it. -/
theorem arms_numbered (fields : List Field) :
    arms fields = (numbered fields).take (keptIds (fields.length + 1)) ∧
    (datatype fields = .union (numbered fields) .dense ↔ fields.length ≤ 126) ∧
    ∀ (entries : UnionEntries) (children : List Column), children.length = fields.length →
      ((entries.finish (arms fields) children).1 = .error .armCount ↔ 126 < fields.length) := by
  refine ⟨arms_eq_take fields, ?_, ?_⟩
  · rw [datatype, DataType.union.injEq, arms_eq_iff]
    exact and_iff_left rfl
  · intro entries children hchildren
    rw [UnionEntries.finish, Column.union?_eq_armCount_iff, List.length_cons, hchildren, ne_eq,
      length_arms_eq_iff, Nat.not_le]

/-- The fields of 127 arms, which with the null markers take all type ids. -/
def fullFields : List Field :=
  (List.range 127).map fun number => .required ("f" ++ toString number) (.scalar .bool)

/-- With all type ids taken, no union can be made of a child for each arm. -/
theorem arms_numbered_full : (List.replicate 127 (Column.null 0)).length = fullFields.length ∧
    (({} : UnionEntries).finish (arms fullFields) (List.replicate 127 (.null 0))).1 =
      .error .armCount := by
  obtain ⟨-, -, hfinish⟩ := arms_numbered fullFields
  have hlength : (List.replicate 127 (Column.null 0)).length = fullFields.length := by
    simp [fullFields]
  exact ⟨hlength, (hfinish {} _ hlength).mpr (by simp [fullFields])⟩

/-- There is a type id for each of 127 arms and the null markers, but no arm is left. -/
theorem arms_full : fullFields.length + 1 ≤ 128 ∧ arms fullFields = [] ∧
    (numbered fullFields).length = 128 := by
  refine ⟨by simp [fullFields], ?_, by simp [fullFields]⟩
  rw [arms_eq_take, keptIds]
  simp [fullFields]

end DenseUnion

end SpatialColumns
