import SpatialColumns.Column.Assembly
import SpatialColumns.Column.Rows
import SpatialColumns.Column.ScalarBuilder
import SpatialColumns.Column.Validity

/-!
# Rows of values

A list of values, absent ones included, gives a nested column its validity
bits: one per row, set where the value is present, and no bits at all when no
value is absent. A row that is read back from those bits alone, and from its
own slots, gives the value it was written for.
-/

namespace SpatialColumns

variable {α β : Type}

namespace Column

/-- The validity bits of the rows of a list of values. -/
def validityOf (values : List (Option α)) : Option (List Bool) :=
  if values.all Option.isSome then none else some (values.map Option.isSome)

theorem length_of_validityOf {values : List (Option α)} {bits : List Bool}
    (h : validityOf values = some bits) : bits.length = values.length := by
  unfold validityOf at h
  split at h
  · cases h
  · cases h
    exact List.length_map _

/-- Mapping the present values moves no bit. -/
@[simp] theorem validityOf_map (values : List (Option α)) (f : α → β) :
    validityOf (values.map (Option.map f)) = validityOf values := by
  simp [validityOf, List.all_map, Function.comp_def]

/-- Where no value is absent, no bits are kept. -/
@[simp] theorem validityOf_map_some (values : List α) : validityOf (values.map some) = none := by
  simp [validityOf]

/-- A column with the bits of values of which none is absent has no nulls. -/
theorem nullCount_eq_zero {c : Column} {values : List α}
    (h : c.ownValidity = validityOf (values.map some)) : c.nullCount = 0 := by
  rw [nullCount, h, validityOf_map_some]
  rfl

/-- The bits say of every row whether its value is present. -/
theorem presence_validityOf (values : List (Option α)) :
    presence values.length (validityOf values) = values.map Option.isSome := by
  unfold validityOf
  split
  next hall =>
    refine (List.eq_replicate_iff.mpr ⟨List.length_map _, ?_⟩).symm
    intro bit hbit
    obtain ⟨value, hmem, rfl⟩ := List.mem_map.mp hbit
    exact List.all_eq_true.mp hall value hmem
  next => rfl

/-- Bits that mark an absent value are never dropped. -/
@[simp] theorem sealedBits_validityOf (values : List (Option α)) :
    sealedBits (validityOf values) = validityOf values := by
  unfold validityOf
  split
  next => rfl
  next hall =>
    obtain ⟨value, hmem, hvalue⟩ := List.all_eq_false.mp (Bool.eq_false_iff.mpr hall)
    have hbit : (values.map Option.isSome).contains false = true :=
      List.contains_iff_mem.mpr (List.mem_map.mpr ⟨value, hmem, Bool.eq_false_iff.mpr hvalue⟩)
    simp only [sealedBits, Option.filter_some, hbit, if_true]

@[simp] theorem cutBits?_validityOf (values : List (Option α)) :
    cutBits? none (validityOf values) = some (validityOf values) := by
  unfold cutBits?
  rw [sealedBits_validityOf]
  cases validityOf values with
  | none => rfl
  | some bits => simp

/-- Two steps come to a value exactly if the first one does and the second one does from there. -/
theorem bind_eq_ok_iff {ε γ : Type} {step : Except ε β} {next : β → Except ε γ} {result : γ} :
    step.bind next = .ok result ↔ ∃ middle, step = .ok middle ∧ next middle = .ok result := by
  cases step <;> simp [Except.bind]

/-- A list is read if each of its items is. -/
theorem mapM_eq_ok {ε γ : Type} {f : β → Except ε γ} {items : List β} {results : List γ}
    (hlength : items.length = results.length)
    (h : ∀ i, (hi : i < items.length) → (hr : i < results.length) →
      f items[i] = .ok results[i]) :
    items.mapM f = .ok results := by
  induction items generalizing results with
  | nil =>
      obtain rfl := List.eq_nil_of_length_eq_zero hlength.symm
      rfl
  | cons item items ih =>
      obtain ⟨result, results, rfl⟩ := List.exists_cons_of_length_eq_add_one hlength.symm
      have hhead : f item = .ok result := h 0 (Nat.zero_lt_succ _) (Nat.zero_lt_succ _)
      have htail : items.mapM f = .ok results := ih (Nat.succ.inj hlength)
        fun i hi hr => h (i + 1) (Nat.succ_lt_succ hi) (Nat.succ_lt_succ hr)
      simp [List.mapM_cons, hhead, htail, bind, Except.bind, pure, Except.pure]

/-- A list is read exactly if each of its items is. -/
theorem mapM_eq_ok_iff {ε γ : Type} {f : β → Except ε γ} {items : List β} {results : List γ} :
    items.mapM f = .ok results ↔ results.length = items.length ∧
      ∀ i, (hi : i < items.length) → (hr : i < results.length) → f items[i] = .ok results[i] := by
  refine ⟨fun h => ?_, fun h => mapM_eq_ok h.1.symm h.2⟩
  induction items generalizing results with
  | nil =>
      cases h
      exact ⟨rfl, fun i hi => absurd hi (Nat.not_lt_zero i)⟩
  | cons item items ih =>
      simp only [List.mapM_cons, bind, Except.bind] at h
      cases hitem : f item with
      | error e => simp [hitem] at h
      | ok result =>
          cases hrest : items.mapM f with
          | error e => simp [hitem, hrest] at h
          | ok rest =>
              simp only [hitem, hrest, pure, Except.pure, Except.ok.injEq] at h
              subst h
              obtain ⟨hlength, hrow⟩ := ih hrest
              refine ⟨congrArg Nat.succ hlength, fun i hi hr => ?_⟩
              cases i with
              | zero => exact hitem
              | succ i => exact hrow i (Nat.lt_of_succ_lt_succ hi) (Nat.lt_of_succ_lt_succ hr)

/-- A list that is not read has an item that is not. -/
theorem exists_of_mapM_error {ε γ : Type} {f : β → Except ε γ} {items : List β} {e : ε}
    (h : items.mapM f = .error e) : ∃ item ∈ items, f item = .error e := by
  induction items with
  | nil => cases h
  | cons item items ih =>
      simp only [List.mapM_cons, bind, Except.bind] at h
      cases hitem : f item with
      | error e' =>
          rw [hitem] at h
          cases h
          exact ⟨item, List.mem_cons_self, hitem⟩
      | ok result =>
          cases hrest : items.mapM f with
          | error e' =>
              simp only [hitem, hrest] at h
              cases h
              obtain ⟨other, hmem, hother⟩ := ih hrest
              exact ⟨other, List.mem_cons_of_mem _ hmem, hother⟩
          | ok rest => simp [hitem, hrest, pure, Except.pure] at h

/-- Readers that agree on the items of a list agree on the list. -/
theorem mapM_congr {m : Type → Type} [Monad m] [LawfulMonad m] {γ : Type} {f g : β → m γ}
    {items : List β} (h : ∀ item ∈ items, f item = g item) : items.mapM f = items.mapM g := by
  induction items with
  | nil => rfl
  | cons item items ih =>
      obtain ⟨hitem, hrest⟩ := List.forall_mem_cons.mp h
      rw [List.mapM_cons, List.mapM_cons, hitem, ih hrest]

/-- The rows of a column are the values it was written for if each row is. -/
theorem readRows_validityOf {values : List (Option α)}
    {read : Bool → Nat → Except DecodeError (Option α)}
    (h : ∀ row, (hrow : row < values.length) →
      read values[row].isSome row = .ok values[row]) :
    readRows values.length (validityOf values) read = .ok values := by
  rw [readRows_eq fun _ => length_of_validityOf, presence_validityOf]
  apply mapM_eq_ok (by simp)
  intro row _ hrow
  simpa using h row hrow

end Column

namespace ValidityBuilder

/-- The builder that was given the bits of a list of values. -/
def holding (values : List (Option α)) : ValidityBuilder := ⟨(values.map Option.isSome).toArray⟩

@[simp] theorem length_holding (values : List (Option α)) :
    (holding values).length = values.length := by
  simp [length, holding]

@[simp] theorem push_holding (values : List (Option α)) (value : Option α) :
    (holding values).push value.isSome = holding (values ++ [value]) := by
  simp [push, holding]

@[simp] theorem finish_holding (values : List (Option α)) :
    (holding values).finish = (Column.validityOf values, holding ([] : List (Option β))) := by
  simp [finish, sealed, holding, Column.validityOf]

end ValidityBuilder

namespace ScalarBuilder

variable {kind : Scalar}

/-- The builder that was given a scalar, or none, for each of a list of values. -/
def holding (part : α → Option kind.Value) (values : List α) : ScalarBuilder kind :=
  ⟨(values.map fun value => .ofOption kind.zero (part value)).toArray⟩

@[simp] theorem length_holding (part : α → Option kind.Value) (values : List α) :
    (holding part values).length = values.length := by
  simp [length, holding]

@[simp] theorem push_holding (part : α → Option kind.Value) (values : List α) (value : α) :
    (holding part values).push (part value) = holding part (values ++ [value]) := by
  simp [push, holding]

@[simp] theorem finish_holding (part : α → Option kind.Value) (values : List α) :
    (holding part values).finish =
      (.scalar kind (values.map fun value => .ofOption kind.zero (part value)),
        holding part []) := by
  simp [finish, holding]

end ScalarBuilder

end SpatialColumns
