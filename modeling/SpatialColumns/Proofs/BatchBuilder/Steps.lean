import SpatialColumns.BatchBuilder

/-!
# The steps of a batch builder

What a fill can do, said once: it finds the builder unusable, is refused its
memory, stops at a value that is refused, or takes the whole batch. Whatever is
kept by fills follows from these four cases, and whatever is kept by the last
step of a builder from the three cases of sealing it.
-/

namespace SpatialColumns

/-- The state of a builder that has taken a number of values and met no failure. -/
def BuilderState.ofLength (count : Nat) : BuilderState := if count = 0 then .empty else .filling

/-- A batch, with all values present or with some absent. -/
inductive Batch (α : Type) where
  | present (values : List α)
  | optional (values : List (Option α))

/-- The values of a batch. -/
def Batch.values {α : Type} : Batch α → List (Option α)
  | present values => values.map some
  | optional values => values

namespace BatchBuilder

variable {α : Type} {c : Codec α}

/-- Takes a batch of either form. -/
def fill (b : BatchBuilder c) (p : Pool) : Batch α → Except Error Unit × BatchBuilder c × Pool
  | .present values => b.extend p values
  | .optional values => b.extendOpt p values

/-- Present values are taken like values of which none happens to be absent. -/
theorem fill_eq_extendOpt (b : BatchBuilder c) (p : Pool) (batch : Batch α) :
    b.fill p batch = b.extendOpt p batch.values := by
  cases batch with
  | present values => rfl
  | optional values => rfl

/-! ## Memory -/

/-- A grown reservation holds the bytes that were drawn from the pool on top of its own. -/
theorem grow_eq_ok {r grown : Reservation} {p q : Pool} {bytes : Nat}
    (h : r.grow p bytes = .ok (grown, q)) :
    grown = ⟨r.size + bytes⟩ ∧ p.reserve bytes = .ok q := by
  unfold Reservation.grow at h
  cases htotal : Size.add? r.size bytes with
  | none => simp [htotal] at h
  | some total =>
      obtain ⟨rfl, -⟩ := Size.add?_eq_some_iff.mp htotal
      cases hreserve : p.reserve bytes with
      | error e => simp [htotal, hreserve] at h
      | ok r => simpa [htotal, hreserve, eq_comm] using h

/-- The reservation grown by the bytes of more values. -/
def grown (b : BatchBuilder c) (p : Pool) (needed : Nat) :
    Except AllocationError (Reservation × Pool) :=
  match footprint c needed with
  | some bytes => b.reservation.grow p bytes
  | none => .error p.overflow

theorem reserve_eq_grown (b : BatchBuilder c) (p : Pool) (count : Nat) :
    b.reserve p count =
      if b.shortfall count = 0 then .ok (b, p)
      else match b.grown p (b.shortfall count) with
        | .error e => .error (.allocation "fill_array_builder" e)
        | .ok (reservation, q) =>
          .ok ({ b with
            reservation := reservation
            reservedElements := b.reservedElements + b.shortfall count }, q) := rfl

theorem grown_eq_ok {b : BatchBuilder c} {p q : Pool} {needed : Nat} {grown : Reservation}
    (h : b.grown p needed = .ok (grown, q)) :
    ∃ bytes, grown = ⟨b.reservedBytes + bytes⟩ ∧ p.reserve bytes = .ok q := by
  unfold BatchBuilder.grown at h
  cases hbytes : footprint c needed with
  | none => simp [hbytes] at h
  | some bytes =>
      rw [hbytes] at h
      exact ⟨bytes, grow_eq_ok h⟩

/-- Making room adds the bytes that are drawn from the pool, if any are. -/
theorem reserve_eq_ok {b larger : BatchBuilder c} {p q : Pool} {count : Nat}
    (h : b.reserve p count = .ok (larger, q)) :
    larger = b ∧ q = p ∨
      ∃ bytes, larger = { b with
          reservation := ⟨b.reservedBytes + bytes⟩
          reservedElements := b.reservedElements + b.shortfall count } ∧
        p.reserve bytes = .ok q := by
  rw [reserve_eq_grown] at h
  split at h
  next =>
    cases h
    exact .inl ⟨rfl, rfl⟩
  next =>
    cases hgrown : b.grown p (b.shortfall count) with
    | error e => simp [hgrown] at h
    | ok result =>
        obtain ⟨reservation, r⟩ := result
        obtain ⟨bytes, rfl, hreserve⟩ := grown_eq_ok hgrown
        rw [hgrown] at h
        cases h
        exact .inr ⟨bytes, rfl, hreserve⟩

/-- Making room changes neither the column nor the state. -/
theorem column_of_reserve {b larger : BatchBuilder c} {p q : Pool} {count : Nat}
    (h : b.reserve p count = .ok (larger, q)) :
    larger.column = b.column ∧ larger.state = b.state := by
  obtain ⟨rfl, -⟩ | ⟨bytes, rfl, -⟩ := reserve_eq_ok h
  · exact ⟨rfl, rfl⟩
  · exact ⟨rfl, rfl⟩

/-! ## Fills -/

/-- A batch fails with the error of its first value that is refused, after the values before
it are taken. -/
theorem appendAll_eq_error_iff {column last : c.Builder} {values : List (Option α)} {e : Error} :
    appendAll c column values = (.error e, last) ↔
      ∃ k mid, ∃ hk : k < values.length,
        appendAll c column (values.take k) = (.ok (), mid) ∧
        c.append mid values[k] = (.error e, last) := by
  induction values generalizing column with
  | nil =>
      constructor
      · intro happend
        cases happend
      · rintro ⟨k, -, hk, -⟩
        exact absurd hk (Nat.not_lt_zero k)
  | cons value values ih =>
      rw [appendAll]
      rcases hvalue : c.append column value with ⟨source | _, next⟩
      · constructor
        · intro happend
          cases happend
          exact ⟨0, column, Nat.zero_lt_succ _, rfl, hvalue⟩
        · rintro ⟨_ | k, mid, hk, htaken, hrefused⟩
          · cases htaken
            exact hvalue.symm.trans hrefused
          · rw [List.take_succ_cons, appendAll, hvalue] at htaken
            cases htaken
      · refine ih.trans ⟨?_, ?_⟩
        · rintro ⟨k, mid, hk, htaken, hrefused⟩
          refine ⟨k + 1, mid, Nat.succ_lt_succ hk, ?_, hrefused⟩
          rw [List.take_succ_cons, appendAll, hvalue]
          exact htaken
        · rintro ⟨_ | k, mid, hk, htaken, hrefused⟩
          · cases htaken
            cases hvalue.symm.trans hrefused
          · rw [List.take_succ_cons, appendAll, hvalue] at htaken
            exact ⟨k, mid, Nat.lt_of_succ_lt_succ hk, htaken, hrefused⟩

/-- What becomes of a builder and its pool in a fill. -/
inductive Extension (b : BatchBuilder c) (p : Pool) (values : List (Option α)) :
    Except Error Unit × BatchBuilder c × Pool → Prop
  | unusable {e : Error} (hunusable : b.usable "fill" = .error e) :
      Extension b p values (.error e, b, p)
  | refused {e : Error} (husable : b.usable "fill" = .ok ())
      (hreserve : b.reserve p values.length = .error e) :
      Extension b p values (.error (.context c.name e), { b with state := .poisoned }, p)
  | stopped {e : Error} {larger : BatchBuilder c} {q : Pool} {column : c.Builder}
      (husable : b.usable "fill" = .ok ())
      (hreserve : b.reserve p values.length = .ok (larger, q))
      (happend : appendAll c larger.column values = (.error e, column)) :
      Extension b p values
        (.error (.context c.name e), { larger with column := column, state := .poisoned }, q)
  | taken {larger : BatchBuilder c} {q : Pool} {column : c.Builder}
      (husable : b.usable "fill" = .ok ())
      (hreserve : b.reserve p values.length = .ok (larger, q))
      (happend : appendAll c larger.column values = (.ok (), column)) :
      Extension b p values
        (.ok (), { larger with
          column := column
          state := if c.length column = 0 then larger.state else .filling }, q)

/-- A fill does one of four things. -/
theorem extendOpt_extension (b : BatchBuilder c) (p : Pool) (values : List (Option α)) :
    Extension b p values (b.extendOpt p values) := by
  unfold extendOpt
  cases husable : b.usable "fill" with
  | error e => exact .unusable husable
  | ok _ =>
      cases hreserve : b.reserve p values.length with
      | error e => exact .refused husable hreserve
      | ok reserved =>
          obtain ⟨larger, q⟩ := reserved
          rcases happend : appendAll c larger.column values with ⟨_ | _, column⟩
          · simp only [happend]
            exact .stopped husable hreserve happend
          · simp only [happend]
            exact .taken husable hreserve happend

/-! ## Sealing -/

/-- What becomes of a builder that is sealed. -/
inductive Sealing (b : BatchBuilder c) : Except Error Column × BatchBuilder c → Prop
  | unusable {e : Error} (hunusable : b.usable "finish" = .error e) : Sealing b (.error e, b)
  | failed {e : ColumnError} {left : c.Builder} (husable : b.usable "finish" = .ok ())
      (hfinish : c.finish b.column = (.error e, left)) :
      Sealing b (.error (.context c.name (.column "finish" e)),
        { b with column := left, state := .poisoned })
  | finished {column : Column} {left : c.Builder} (husable : b.usable "finish" = .ok ())
      (hfinish : c.finish b.column = (.ok column, left)) :
      Sealing b (.ok column, { b with column := left, state := .finalized })

/-- Sealing returns no memory. -/
theorem Sealing.reservedBytes {b : BatchBuilder c} {result : Except Error Column × BatchBuilder c}
    (h : Sealing b result) : result.2.reservedBytes = b.reservedBytes := by
  cases h with
  | unusable => rfl
  | failed => rfl
  | finished => rfl

/-- Sealing does one of three things. -/
theorem finish_sealing (b : BatchBuilder c) : Sealing b b.finish := by
  unfold finish
  cases husable : b.usable "finish" with
  | error e => exact .unusable husable
  | ok _ =>
      rcases hfinish : c.finish b.column with ⟨_ | _, left⟩
      · exact .failed husable hfinish
      · exact .finished husable hfinish

end BatchBuilder

end SpatialColumns
