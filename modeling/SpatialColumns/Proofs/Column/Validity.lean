import Mathlib.Algebra.Order.Ring.Nat
import SpatialColumns.Column.FixedSizeList
import SpatialColumns.Proofs.Column.Cell

/-!
# Columns whose parts fit together

A column is typed if its parts are of the datatypes that its fields say, and aligned if
they are also long enough for its rows. It is complete if nothing that a field requires is
null, where only the rows that are present count, and pointed if all entries of unions point
at slots. A column is valid if it is aligned, complete and pointed and its parts at any
depth are. It is addressable if no row of a list lies too far behind to be found.
-/

namespace SpatialColumns.Column

/-- The children of a column. -/
def parts : Column → List Column
  | null _ => []
  | scalar .. => []
  | fixedSizeList _ _ _ _ child => [child]
  | list _ _ _ child => [child]
  | struct _ _ _ children => children
  | union _ _ _ _ children => children

/-- The fields of a column, each with the child that stands in for it. -/
def fieldParts : Column → List (Field × Column)
  | null _ => []
  | scalar .. => []
  | fixedSizeList item _ _ _ child => [(item, child)]
  | list item _ _ child => [(item, child)]
  | struct fields _ _ children => fields.zip children
  | union arms _ _ _ children => (arms.map Prod.snd).zip children

mutual

/-- A column and its parts at any depth. -/
def withParts (c : Column) : List Column :=
  match c with
  | null n => [null n]
  | scalar kind slots => [scalar kind slots]
  | fixedSizeList item size length validity child =>
    fixedSizeList item size length validity child :: withParts child
  | list item offsets validity child => list item offsets validity child :: withParts child
  | struct fields length validity children =>
    struct fields length validity children :: withPartsAll children
  | union arms mode typeIds offsets children =>
    union arms mode typeIds offsets children :: withPartsAll children
  termination_by structural c

def withPartsAll (cs : List Column) : List Column :=
  match cs with
  | [] => []
  | c :: cs => withParts c ++ withPartsAll cs
  termination_by structural cs

end

theorem withPartsAll_eq_flatMap (cs : List Column) : withPartsAll cs = cs.flatMap withParts := by
  induction cs with
  | nil => rfl
  | cons c cs ih => rw [withPartsAll, ih, List.flatMap_cons]

theorem withParts_eq (c : Column) : c.withParts = c :: c.parts.flatMap withParts := by
  cases c <;> simp [withParts, parts, withPartsAll_eq_flatMap]

/-- A condition on a column and on its parts at any depth. -/
def Throughout (P : Column → Prop) (c : Column) : Prop := ∀ part ∈ c.withParts, P part

/-- As many validity bits as rows, if there are any. -/
def BitsFit (length : Nat) (validity : Option (List Bool)) : Prop :=
  ∀ bits, validity = some bits → bits.length = length

/-- The children have the datatypes of their fields. How many slots they have, what is null
and where entries point does not matter. -/
def Typed : Column → Prop
  | null _ => True
  | scalar .. => True
  | fixedSizeList item _ _ _ child => child.datatype = item.type
  | list item _ _ child => child.datatype = item.type
  | struct fields _ _ children => children.map datatype = fields.map Field.type
  | union arms _ _ _ children => children.map datatype = arms.map (·.2.type)

/-- As many children as fields, whatever datatypes they have. -/
def Populated : Column → Prop
  | struct fields _ _ children => children.length = fields.length
  | union arms _ _ _ children => children.length = arms.length
  | _ => True

/-- A field at any depth declares one datatype and has a child of another. -/
def Misfit (c : Column) (declared actual : DataType) : Prop :=
  ∃ part ∈ c.withParts, ∃ entry ∈ part.fieldParts,
    entry.1.type = declared ∧ entry.2.datatype = actual ∧ actual ≠ declared

/-- The children have the datatypes of their fields and a slot for every row. -/
def Aligned : Column → Prop
  | null _ => True
  | scalar .. => True
  | fixedSizeList item size length validity child =>
    child.datatype = item.type ∧ length * rowSize size ≤ child.length ∧ BitsFit length validity
  | list item offsets validity child =>
    child.datatype = item.type ∧ offsets.Pairwise (· ≤ ·) ∧
      (∀ offset ∈ offsets, offset ≤ child.length) ∧ BitsFit (offsets.length - 1) validity
  | struct fields length validity children =>
    children.map datatype = fields.map Field.type ∧ (∀ child ∈ children, child.length = length) ∧
      BitsFit length validity
  | union arms mode typeIds offsets children =>
    children.map datatype = arms.map (·.2.type) ∧
      match mode with
      | .dense => offsets.length = typeIds.length
      | .sparse => ∀ child ∈ children, child.length = typeIds.length

theorem Aligned.typed {c : Column} (h : c.Aligned) : c.Typed := by
  cases c with
  | null | scalar => trivial
  | fixedSizeList | list | struct | union => exact h.1

/-- A required item or child of a struct is null in no row that is present, and a
required arm of a union in none at all. -/
def Complete : Column → Prop
  | null _ => True
  | scalar .. => True
  | fixedSizeList item size length validity child =>
    item.nullable = false → ∀ row < length, isPresent validity row = true →
      ∀ k < rowSize size, (child.cell (row * rowSize size + k)).isNull = false
  | list item offsets validity child =>
    item.nullable = false → ∀ row < offsets.length - 1, isPresent validity row = true →
      ∀ slot < offsets.getD (row + 1) 0, offsets.getD row 0 ≤ slot →
        (child.cell slot).isNull = false
  | struct fields length validity children =>
    ∀ entry ∈ fields.zip children, entry.1.nullable = false →
      ∀ row < length, isPresent validity row = true → (entry.2.cell row).isNull = false
  | union arms _ _ _ children =>
    ∀ entry ∈ arms.zip children, entry.1.2.nullable = false →
      ∀ slot < entry.2.length, (entry.2.cell slot).isNull = false

/-- Every entry of a union names an arm and points at a slot of it. In an arm of
nulls there is nothing to point at, so there any slot will do. -/
def Pointed : Column → Prop
  | union arms mode typeIds offsets children =>
    ∀ entry ∈ unionEntries mode typeIds offsets, ∃ arm ∈ arms.zip children,
      arm.1.1 = entry.1 ∧ (arm.1.2.type = .null ∨ entry.2 < arm.2.length)
  | _ => True

/-- No row of a list that is present starts behind the last slot that one can start at. -/
def Addressable : Column → Prop
  | fixedSizeList _ size length validity _ =>
    ∀ row < length, isPresent validity row = true → row * rowSize size ≤ lastStart
  | _ => True

/-- What it takes to read every row of a column. -/
structure Readable (c : Column) : Prop where
  aligned : c.Aligned
  addressable : c.Addressable

instance (length : Nat) (validity : Option (List Bool)) : Decidable (BitsFit length validity) :=
  match validity with
  | none => isTrue fun _ h => nomatch h
  | some bits => decidable_of_iff (bits.length = length)
      ⟨fun hlength _ hbits => Option.some.inj hbits ▸ hlength, fun h => h bits rfl⟩

instance : DecidablePred Typed
  | null _ => inferInstanceAs (Decidable True)
  | scalar .. => inferInstanceAs (Decidable True)
  | fixedSizeList .. => inferInstanceAs (Decidable (_ = _))
  | list .. => inferInstanceAs (Decidable (_ = _))
  | struct .. => inferInstanceAs (Decidable (_ = _))
  | union .. => inferInstanceAs (Decidable (_ = _))

instance : DecidablePred Populated
  | null _ => inferInstanceAs (Decidable True)
  | scalar .. => inferInstanceAs (Decidable True)
  | fixedSizeList .. => inferInstanceAs (Decidable True)
  | list .. => inferInstanceAs (Decidable True)
  | struct .. => inferInstanceAs (Decidable (_ = _))
  | union .. => inferInstanceAs (Decidable (_ = _))

instance : DecidablePred Aligned
  | null _ => inferInstanceAs (Decidable True)
  | scalar .. => inferInstanceAs (Decidable True)
  | fixedSizeList .. => inferInstanceAs (Decidable (_ ∧ _ ∧ _))
  | list .. => inferInstanceAs (Decidable (_ ∧ _ ∧ _ ∧ _))
  | struct .. => inferInstanceAs (Decidable (_ ∧ _ ∧ _))
  | union _ .dense .. => inferInstanceAs (Decidable (_ ∧ _ = _))
  | union _ .sparse .. => inferInstanceAs (Decidable (_ ∧ ∀ child ∈ _, Column.length child = _))

instance : DecidablePred Complete
  | null _ => inferInstanceAs (Decidable True)
  | scalar .. => inferInstanceAs (Decidable True)
  | fixedSizeList .. => inferInstanceAs (Decidable (_ → ∀ row < _, _ → ∀ k < _, _ = _))
  | list .. => inferInstanceAs (Decidable (_ → ∀ row < _, _ → ∀ slot < _, _ → _ = _))
  | struct .. => inferInstanceAs (Decidable (∀ entry ∈ _, _ → ∀ row < _, _ → _ = _))
  | union .. => inferInstanceAs (Decidable (∀ entry ∈ _, _ → ∀ slot < _, _ = _))

instance : DecidablePred Pointed
  | null _ => inferInstanceAs (Decidable True)
  | scalar .. => inferInstanceAs (Decidable True)
  | fixedSizeList .. => inferInstanceAs (Decidable True)
  | list .. => inferInstanceAs (Decidable True)
  | struct .. => inferInstanceAs (Decidable True)
  | union .. => inferInstanceAs (Decidable (∀ entry ∈ _, ∃ arm ∈ _, _ ∧ (_ ∨ _)))

instance : DecidablePred Addressable
  | null _ => inferInstanceAs (Decidable True)
  | scalar .. => inferInstanceAs (Decidable True)
  | fixedSizeList .. => inferInstanceAs (Decidable (∀ row < _, _ → _ ≤ _))
  | list .. => inferInstanceAs (Decidable True)
  | struct .. => inferInstanceAs (Decidable True)
  | union .. => inferInstanceAs (Decidable True)

/-- What the columnar format demands of a column. -/
structure Valid (c : Column) : Prop where
  aligned : c.Throughout Aligned
  complete : c.Throughout Complete
  pointed : c.Throughout Pointed

namespace Throughout

variable {P : Column → Prop} {c child : Column}

instance [DecidablePred P] : Decidable (c.Throughout P) :=
  inferInstanceAs (Decidable (∀ part ∈ c.withParts, P part))

theorem iff_self_parts : c.Throughout P ↔ P c ∧ ∀ part ∈ c.parts, part.Throughout P := by
  unfold Throughout
  rw [withParts_eq, List.forall_mem_cons]
  simp only [List.mem_flatMap]
  grind

theorem self (h : c.Throughout P) : P c := (iff_self_parts.mp h).1

theorem part (h : c.Throughout P) (hchild : child ∈ c.parts) : child.Throughout P :=
  (iff_self_parts.mp h).2 child hchild

theorem imp {Q : Column → Prop} (himp : ∀ part : Column, P part → Q part) (h : c.Throughout P) :
    c.Throughout Q :=
  fun part hpart => himp part (h part hpart)

theorem readable (haligned : c.Throughout Aligned) (haddressable : c.Throughout Addressable) :
    c.Throughout Readable :=
  fun part hpart => ⟨haligned part hpart, haddressable part hpart⟩

theorem aligned (h : c.Throughout Readable) : c.Throughout Aligned :=
  h.imp fun _ => Readable.aligned

end Throughout

/-- No row starts too late among as few slots as that. -/
theorem Aligned.addressable {c : Column} (h : c.Aligned)
    (hslots : ∀ child ∈ c.parts, child.length ≤ 2 ^ 31) : c.Addressable := by
  cases c with
  | fixedSizeList item size length validity child =>
      intro row hrow _
      have hchild : child.length ≤ 2 ^ 31 := hslots child (List.mem_singleton_self child)
      have hcount : length * rowSize size ≤ child.length := h.2.1
      have hend : (row + 1) * rowSize size ≤ length * rowSize size := Nat.mul_le_mul_right _ hrow
      have hlast : lastStart = 2 ^ 31 - 1 := by decide
      rw [Nat.succ_mul] at hend
      rcases Nat.eq_zero_or_pos (rowSize size) with hzero | hpos
      · simp [hzero]
      · omega
  | _ => trivial

theorem Throughout.addressable {c : Column} (haligned : c.Throughout Aligned)
    (hslots : c.Throughout fun part => ∀ child ∈ part.parts, child.length ≤ 2 ^ 31) :
    c.Throughout Addressable :=
  fun part hpart => (haligned part hpart).addressable (hslots part hpart)

/-! ## Children that fit their fields -/

theorem Typed.populated {c : Column} (h : c.Typed) : c.Populated := by
  cases c with
  | struct => simpa [Populated] using congrArg List.length h
  | union => simpa [Populated] using congrArg List.length h
  | _ => trivial

/-- Where datatypes are those of the fields, so is the one of each child. -/
theorem datatype_of_mem_zip {fields : List Field} {children : List Column}
    (h : children.map datatype = fields.map Field.type) {entry : Field × Column}
    (hentry : entry ∈ fields.zip children) : entry.2.datatype = entry.1.type := by
  obtain ⟨index, hindex, rfl⟩ := List.getElem_of_mem hentry
  have hfield : index < fields.length := List.lt_length_left_of_zip hindex
  have hchild : index < children.length := List.lt_length_right_of_zip hindex
  have hsame := List.getElem_of_eq h (i := index) (by simpa using hchild)
  simpa using hsame

theorem Typed.datatype_eq {c : Column} (h : c.Typed) {entry : Field × Column}
    (hentry : entry ∈ c.fieldParts) : entry.2.datatype = entry.1.type := by
  cases c with
  | null | scalar => cases hentry
  | fixedSizeList | list =>
      obtain rfl := List.mem_singleton.mp hentry
      exact h
  | struct => exact datatype_of_mem_zip h hentry
  | union => exact datatype_of_mem_zip (h.trans (List.map_map ..).symm) hentry

theorem mem_parts_of_mem_fieldParts {c : Column} {entry : Field × Column}
    (h : entry ∈ c.fieldParts) : entry.2 ∈ c.parts := by
  cases c with
  | null | scalar => cases h
  | fixedSizeList | list =>
      obtain rfl := List.mem_singleton.mp h
      exact List.mem_singleton_self _
  | struct => exact (List.of_mem_zip h).2
  | union => exact (List.of_mem_zip h).2

namespace Misfit

variable {c child : Column} {declared actual : DataType}

theorem of_entry {entry : Field × Column} (hentry : entry ∈ c.fieldParts)
    (hother : entry.2.datatype ≠ entry.1.type) : c.Misfit entry.1.type entry.2.datatype :=
  ⟨c, by rw [withParts_eq]; exact List.mem_cons_self, entry, hentry, rfl, rfl, hother⟩

theorem of_part (hchild : child ∈ c.parts) (h : child.Misfit declared actual) :
    c.Misfit declared actual := by
  obtain ⟨part, hpart, hentry⟩ := h
  refine ⟨part, ?_, hentry⟩
  rw [withParts_eq]
  exact List.mem_cons_of_mem _ (List.mem_flatMap.mpr ⟨child, hchild, hpart⟩)

end Misfit

/-- In a column whose children all have the datatypes of their fields there is no misfit. -/
theorem Throughout.not_misfit {c : Column} (h : c.Throughout Typed) (declared actual : DataType) :
    ¬c.Misfit declared actual := by
  rintro ⟨part, hpart, entry, hentry, rfl, rfl, hother⟩
  exact hother ((h part hpart).datatype_eq hentry)

/-! ## Columns of which every child has the datatype of its field -/

theorem throughout_typed_null (n : Nat) : (null n).Throughout Typed :=
  Throughout.iff_self_parts.mpr ⟨trivial, nofun⟩

theorem throughout_typed_scalar {kind : Scalar} (slots : List (Slot kind.Value)) :
    (scalar kind slots).Throughout Typed :=
  Throughout.iff_self_parts.mpr ⟨trivial, nofun⟩

/-! ## Columns of which every list is addressable -/

@[simp] theorem throughout_addressable_null (n : Nat) : (null n).Throughout Addressable :=
  Throughout.iff_self_parts.mpr ⟨trivial, nofun⟩

@[simp] theorem throughout_addressable_scalar {kind : Scalar} (slots : List (Slot kind.Value)) :
    (scalar kind slots).Throughout Addressable :=
  Throughout.iff_self_parts.mpr ⟨trivial, nofun⟩

@[simp] theorem throughout_addressable_struct {fields : List Field} {length : Nat}
    {validity : Option (List Bool)} {children : List Column} :
    (struct fields length validity children).Throughout Addressable ↔
      ∀ child ∈ children, child.Throughout Addressable :=
  Throughout.iff_self_parts.trans (and_iff_right trivial)

@[simp] theorem throughout_addressable_union {arms : List (Int8 × Field)} {mode : UnionMode}
    {typeIds : List Int8} {offsets : List Int32} {children : List Column} :
    (union arms mode typeIds offsets children).Throughout Addressable ↔
      ∀ child ∈ children, child.Throughout Addressable :=
  Throughout.iff_self_parts.trans (and_iff_right trivial)

/-! ## Valid columns -/

instance (c : Column) : Decidable c.Valid :=
  decidable_of_iff (c.Throughout Aligned ∧ c.Throughout Complete ∧ c.Throughout Pointed)
    ⟨fun ⟨haligned, hcomplete, hpointed⟩ => ⟨haligned, hcomplete, hpointed⟩,
      fun h => ⟨h.aligned, h.complete, h.pointed⟩⟩

theorem Valid.part {c child : Column} (h : c.Valid) (hchild : child ∈ c.parts) : child.Valid :=
  ⟨h.aligned.part hchild, h.complete.part hchild, h.pointed.part hchild⟩

/-! ## Columns of a known datatype -/

theorem eq_scalar_of_datatype {c : Column} {kind : Scalar} (h : c.datatype = .scalar kind) :
    ∃ slots, c = scalar kind slots := by
  cases c <;> simp only [datatype, DataType.scalar.injEq, reduceCtorEq] at h
  subst h
  exact ⟨_, rfl⟩

/-- A column of lists of scalars has a scalar child. -/
theorem eq_list_of_typed {c : Column} {type : Primitive} {n : Nat} (hc : c.Throughout Typed)
    (h : c.datatype = .listOf type n) :
    ∃ length validity slots, c = fixedSizeList (.required "item" (.scalar (.primitive type)))
      (Int32.ofNat n) length validity (scalar (.primitive type) slots) := by
  cases c <;> simp only [datatype, DataType.listOf, DataType.fixedSizeList.injEq, reduceCtorEq] at h
  case fixedSizeList item size length validity child =>
    obtain ⟨rfl, rfl⟩ := h
    have htype : child.datatype = .scalar (.primitive type) := hc.self
    obtain ⟨slots, rfl⟩ := eq_scalar_of_datatype htype
    exact ⟨length, validity, slots, rfl⟩

/-- A column of lists of `n` scalars has `n` slots for every row. -/
theorem eq_list_of_datatype {c : Column} {type : Primitive} {n : Nat} (hc : c.Throughout Aligned)
    (h : c.datatype = .listOf type n) :
    ∃ length validity slots,
      c = fixedSizeList (.required "item" (.scalar (.primitive type))) (Int32.ofNat n) length
        validity (scalar (.primitive type) slots) ∧
      length * rowSize (Int32.ofNat n) ≤ slots.length ∧ BitsFit length validity := by
  obtain ⟨length, validity, slots, rfl⟩ := eq_list_of_typed (hc.imp fun _ => Aligned.typed) h
  obtain ⟨-, hlength, hbits⟩ := hc.self
  exact ⟨length, validity, slots, rfl, hlength, hbits⟩

/-- A struct column has a child of the right datatype for every field. -/
theorem eq_struct_of_typed {c : Column} {fields : List Field} (hc : c.Throughout Typed)
    (h : c.datatype = .struct fields) :
    ∃ length validity children, c = struct fields length validity children ∧
      children.map datatype = fields.map Field.type := by
  cases c <;> simp only [datatype, DataType.struct.injEq, reduceCtorEq] at h
  case struct found length validity children =>
    subst h
    exact ⟨length, validity, children, rfl, hc.self⟩

/-- A struct column has a child for every field, if nothing is known of their datatypes. -/
theorem eq_struct_of_populated {c : Column} {fields : List Field} (hc : c.Populated)
    (h : c.datatype = .struct fields) :
    ∃ length validity children, c = struct fields length validity children ∧
      children.length = fields.length := by
  cases c <;> simp only [datatype, DataType.struct.injEq, reduceCtorEq] at h
  case struct found length validity children =>
    subst h
    exact ⟨length, validity, children, rfl, hc⟩

/-- A union has a child for every arm, if nothing is known of their datatypes. -/
theorem eq_union_of_populated {c : Column} {arms : List (Int8 × Field)} {mode : UnionMode}
    (hc : c.Populated) (h : c.datatype = .union arms mode) :
    ∃ typeIds offsets children, c = union arms mode typeIds offsets children ∧
      children.length = arms.length := by
  cases c <;> simp only [datatype, DataType.union.injEq, reduceCtorEq] at h
  case union found mode typeIds offsets children =>
    obtain ⟨rfl, rfl⟩ := h
    exact ⟨typeIds, offsets, children, rfl, hc⟩

/-- A union has a child of the right datatype for every arm. -/
theorem eq_union_of_typed {c : Column} {arms : List (Int8 × Field)} {mode : UnionMode}
    (hc : c.Throughout Typed) (h : c.datatype = .union arms mode) :
    ∃ typeIds offsets children, c = union arms mode typeIds offsets children ∧
      children.map datatype = arms.map (·.2.type) := by
  cases c <;> simp only [datatype, DataType.union.injEq, reduceCtorEq] at h
  case union found mode typeIds offsets children =>
    obtain ⟨rfl, rfl⟩ := h
    exact ⟨typeIds, offsets, children, rfl, hc.self⟩

/-! ## Columns with all that their rows need -/

theorem exists_wanted? {rows : Option Nat} {length : Nat} (h : ∀ count ∈ rows, count ≤ length) :
    ∃ count ≤ length, wanted? rows length = some count := by
  cases rows with
  | none => exact ⟨length, Nat.le_refl _, rfl⟩
  | some count =>
      have hcount := h count rfl
      exact ⟨count, hcount, if_pos hcount⟩

theorem exists_cutBits? {rows : Option Nat} {length : Nat} {validity : Option (List Bool)}
    (hbits : BitsFit length validity) (h : ∀ count ∈ rows, count ≤ length) :
    ∃ bits, cutBits? rows validity = some bits := by
  unfold cutBits?
  cases hsealed : sealedBits validity with
  | none => exact ⟨none, rfl⟩
  | some bits =>
      have hvalidity : validity = some bits := (Option.filter_eq_some_iff.mp hsealed).1
      obtain ⟨count, -, hcount⟩ := exists_wanted? (hbits bits hvalidity ▸ h)
      exact ⟨some (bits.take count), by simp [hcount]⟩

mutual

/-- A column whose parts fit together has all that its first rows need, if its slots can be
counted. -/
theorem exists_cut?_of_aligned (rows : Option Nat) (c : Column) (h : c.Throughout Aligned)
    (hsize : c.Throughout fun part => part.length ≤ Size.limit)
    (hrows : ∀ count ∈ rows, count ≤ c.length) : ∃ part, c.cut? rows = some part := by
  match c with
  | null n =>
      obtain ⟨count, -, hcount⟩ : ∃ count ≤ n, wanted? rows n = some count := exists_wanted? hrows
      exact ⟨null count, by simp [cut?, hcount]⟩
  | scalar kind slots =>
      obtain ⟨count, -, hcount⟩ : ∃ count ≤ slots.length, wanted? rows slots.length = some count :=
        exists_wanted? hrows
      exact ⟨scalar kind (slots.take count), by simp [cut?, hcount]⟩
  | fixedSizeList item size n validity child =>
      obtain ⟨-, hchild, hbits⟩ := h.self
      obtain ⟨count, hle, hcount⟩ : ∃ count ≤ n, wanted? rows n = some count :=
        exists_wanted? hrows
      obtain ⟨bits, hcut⟩ := exists_cutBits? hbits hrows
      have hslots : count * rowSize size ≤ child.length :=
        Nat.le_trans (Nat.mul_le_mul_right _ hle) hchild
      have hcountable : Size.mul? count (rowSize size) = some (count * rowSize size) :=
        Size.mul?_eq_some_iff.mpr
          ⟨rfl, Nat.le_trans hslots (hsize.part List.mem_cons_self).self⟩
      obtain ⟨part, hpart⟩ := exists_cut?_of_aligned (some (count * rowSize size)) child
        (h.part List.mem_cons_self) (hsize.part List.mem_cons_self)
        fun _ hwanted => Option.some.inj hwanted ▸ hslots
      exact ⟨fixedSizeList item size count bits part,
        by simp [cut?, hcount, hcut, hcountable, hpart]⟩
  | list item offsets validity child =>
      obtain ⟨-, -, -, hbits⟩ := h.self
      obtain ⟨count, -, hcount⟩ :
          ∃ count ≤ offsets.length - 1, wanted? rows (offsets.length - 1) = some count :=
        exists_wanted? hrows
      obtain ⟨bits, hcut⟩ := exists_cutBits? hbits hrows
      obtain ⟨part, hpart⟩ := exists_cut?_of_aligned none child (h.part List.mem_cons_self)
        (hsize.part List.mem_cons_self) nofun
      exact ⟨list item (offsets.take (count + 1)) bits part, by simp [cut?, hcount, hcut, hpart]⟩
  | struct fields n validity children =>
      obtain ⟨-, hlengths, hbits⟩ := h.self
      obtain ⟨count, -, hcount⟩ : ∃ count ≤ n, wanted? rows n = some count :=
        exists_wanted? hrows
      obtain ⟨bits, hcut⟩ := exists_cutBits? hbits hrows
      obtain ⟨parts, hparts⟩ := exists_cutAll?_of_aligned rows children fun child hchild =>
        ⟨h.part hchild, hsize.part hchild, hlengths child hchild ▸ hrows⟩
      exact ⟨struct fields count bits parts, by simp [cut?, hcount, hcut, hparts]⟩
  | union arms mode typeIds offsets children =>
      obtain ⟨count, hle, hcount⟩ :
          ∃ count ≤ typeIds.length, wanted? rows typeIds.length = some count :=
        exists_wanted? hrows
      obtain ⟨kept, hkept⟩ : ∃ kept, cutOffsets? mode count offsets = some kept := by
        cases mode with
        | sparse => exact ⟨offsets, rfl⟩
        | dense =>
            have hoffsets : offsets.length = typeIds.length := h.self.2
            exact ⟨offsets.take count, if_pos (hoffsets.symm ▸ hle)⟩
      obtain ⟨parts, hparts⟩ := exists_cutAll?_of_aligned none children fun child hchild =>
        ⟨h.part hchild, hsize.part hchild, nofun⟩
      exact ⟨union arms mode (typeIds.take count) kept parts,
        by simp [cut?, hcount, hkept, hparts]⟩
  termination_by structural c

theorem exists_cutAll?_of_aligned (rows : Option Nat) (cs : List Column)
    (h : ∀ c ∈ cs, c.Throughout Aligned ∧ (c.Throughout fun part => part.length ≤ Size.limit) ∧
      ∀ count ∈ rows, count ≤ c.length) :
    ∃ parts, cutAll? rows cs = some parts := by
  match cs with
  | [] => exact ⟨[], rfl⟩
  | c :: cs =>
      obtain ⟨⟨haligned, hsize, hrows⟩, hcs⟩ := List.forall_mem_cons.mp h
      obtain ⟨part, hpart⟩ := exists_cut?_of_aligned rows c haligned hsize hrows
      obtain ⟨parts, hparts⟩ := exists_cutAll?_of_aligned rows cs hcs
      exact ⟨part :: parts, by simp [cutAll?, hpart, hparts]⟩
  termination_by structural cs

end

end SpatialColumns.Column
