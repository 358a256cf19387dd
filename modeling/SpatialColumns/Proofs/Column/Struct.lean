import Mathlib.Data.List.Forall2
import SpatialColumns.Proofs.Column.Rows

/-!
# Structs whose children fit

A child fits its field when it is of the field's datatype, has a slot for every
row, and is null in no present row of a required field. Children that all fit
make up a struct.
-/

namespace SpatialColumns.Column

variable {α : Type} {length : Nat} {validity : Option (List Bool)}

/-- A child that may stand under a field of a struct. -/
structure Fits (length : Nat) (validity : Option (List Bool)) (field : Field)
    (child : Column) : Prop where
  datatype : child.datatype = field.type
  length : child.length = length
  masked : field.nullable = true ∨ nullsMasked validity child.occupied = true

theorem Fits.fieldDefect?_eq_none {field : Field} {child : Column}
    (h : Fits length validity field child) :
    fieldDefect? length validity (field, child) = none := by
  have hmasked : (!field.nullable && !nullsMasked validity child.occupied) = false := by
    rcases h.masked with hnullable | hmasked
    · simp [hnullable]
    · simp [hmasked]
  simp [fieldDefect?, h.datatype, h.length, hmasked]

theorem length_of_fits {fields : List Field} {children : List Column}
    (hfits : List.Forall₂ (Fits length validity) fields children) :
    ∀ child ∈ children, child.length = length := by
  induction hfits with
  | nil => exact nofun
  | cons hfit _ ih => exact List.forall_mem_cons.mpr ⟨hfit.length, ih⟩

/-- A struct takes its length from its first child, and every child that fits agrees. -/
theorem struct?_of_fits {fields : List Field} {children : List Column}
    (hbits : ∀ bits, validity = some bits → bits.length = length)
    (hne : children ≠ []) (hfits : List.Forall₂ (Fits length validity) fields children) :
    struct? fields children validity = .ok (struct fields length validity children) := by
  have hlength : (children.head?.map Column.length).getD 0 = length := by
    cases hfits with
    | nil => exact absurd rfl hne
    | cons hfit _ => exact hfit.length
  have hvalidity : validityDefect? length validity = none := by
    cases validity with
    | none => rfl
    | some bits => simp [validityDefect?, hbits bits rfl]
  have hfields : (fields.zip children).findSome? (fieldDefect? length validity) = none := by
    -- The first child decides the length, but the induction is over all of them.
    clear hne hlength
    induction hfits with
    | nil => rfl
    | cons hfit _ ih => simp [hfit.fieldDefect?_eq_none, ih]
  unfold struct?
  rw [if_neg (not_not.mpr hfits.length_eq), hlength, hvalidity, hfields]
  rfl

/-- A child is null in no other rows than a struct with the same bits. -/
theorem nullsMasked_map_ofBits (validity : Option (List Bool)) :
    nullsMasked validity (validity.map Presence.ofBits) = true := by
  cases validity with
  | none => rfl
  | some bits =>
      have hcovers : (Presence.ofBits bits).covers bits = true := by
        simp only [Presence.covers, Presence.ofBits, List.all_eq_true]
        rintro ⟨present, row⟩ hmem
        obtain ⟨hrow, hbit⟩ := List.mem_zipIdx' hmem
        cases present with
        | false => rfl
        | true => simp [hrow, ← hbit]
      simp [nullsMasked, hcovers]

/-- A child without nulls is masked by any bits. -/
@[simp] theorem nullsMasked_none (validity : Option (List Bool)) :
    nullsMasked validity none = true := by
  cases validity <;> rfl

/-- Slots that are all there leave no row without a value. -/
@[simp] theorem occupied_scalar_value {kind : Scalar} (values : List kind.Value) :
    (scalar kind (values.map .value)).occupied = none := by
  have hbits : (values.map Slot.value).map Slot.isValue = List.replicate values.length true := by
    simp [Function.comp_def]
  have hfull : (Presence.ofBits (List.replicate values.length true)).isFull = true := by
    simp only [Presence.isFull, Nat.all_eq_finRange_all, List.all_eq_true]
    rintro ⟨row, hrow⟩ -
    have hrow : row < values.length := by simpa [Presence.ofBits] using hrow
    simp [Presence.ofBits, hrow]
  rw [occupied, hbits, Presence.ifSome, if_pos hfull]

end SpatialColumns.Column
