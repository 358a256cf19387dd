import SpatialColumns.Proofs.BatchBuilder.Lifecycle

/-!
# What a builder holds after any number of fills

As long as no call fails, a builder holds the bytes of itself and of the larger of its
capacity and the number of values it has taken, as exact numbers. That is what every fill
restores: it asks for the bytes that are missing, and is refused if they cannot be counted
or the pool does not give them. A sum that is cut off at the largest count never makes a
request smaller, since so many values cannot be paid for.
-/

namespace SpatialColumns

variable {α : Type} {c : Codec α} {capacity : Nat}

namespace Pool

/-- A request for no bytes is always granted. -/
theorem reserve_zero (p : Pool) : ∃ q, p.reserve 0 = .ok q := by
  obtain ⟨_ | limit, reserved⟩ := p
  · exact ⟨_, rfl⟩
  · refine ⟨⟨some limit, reserved + 0⟩, ?_⟩
    simp only [reserve, Nat.not_lt_zero, if_false]

/-- What is held cannot be raised if the total cannot be counted or the difference is refused. -/
theorem raise_eq_error_iff {p : Pool} {held total : Nat} :
    (∃ e, p.raise held total = .error e) ↔
      Size.limit < total ∨ ∃ e, p.reserve (total - held) = .error e := by
  by_cases hcounted : total ≤ Size.limit
  · rw [raise_of_le _ _ hcounted, or_iff_right (Nat.not_lt.mpr hcounted)]
  · have hover : Size.limit < total := Nat.lt_of_not_le hcounted
    rw [raise_of_lt _ _ hover]
    exact ⟨fun _ => .inl hover, fun _ => ⟨_, rfl⟩⟩

end Pool

namespace BatchBuilder

/-- A builder that was opened with room for `capacity` values and has taken some batches
since, each with the pool as it was at the time. -/
inductive Reachable (capacity : Nat) : BatchBuilder c → Prop
  | opened {b : BatchBuilder c} {p q : Pool} (hopen : openIn c p capacity = .ok (b, q)) :
      Reachable capacity b
  | filled {b larger : BatchBuilder c} {p q : Pool} {batch : Batch α} (hb : Reachable capacity b)
      (hfill : b.fill p batch = (.ok (), larger, q)) : Reachable capacity larger

/-- A builder that holds the bytes for the larger of its capacity and its length. -/
structure Exact (capacity : Nat) (b : BatchBuilder c) : Prop where
  unbroken : b.Unbroken
  paid : b.Paid
  room : b.reservedElements = max capacity b.length

theorem exact_of_openIn (hc : c.Grows) {b : BatchBuilder c} {p q : Pool}
    (hopen : openIn c p capacity = .ok (b, q)) : Exact capacity b := by
  obtain ⟨hunbroken, hlength⟩ := unbroken_of_openIn hc hopen
  rw [openIn_eq] at hopen
  cases hraise : p.raise 0 (bytesFor c capacity) with
  | error e =>
      rw [hraise] at hopen
      cases hopen
  | ok r =>
      rw [hraise] at hopen
      cases hopen
      refine ⟨hunbroken, ⟨rfl, Pool.le_limit_of_raise hraise⟩, ?_⟩
      rw [hlength, Nat.max_zero]
      rfl

namespace Exact

variable {b : BatchBuilder c} {p : Pool} {count : Nat}

theorem reservedBytes (hb : Exact capacity b) :
    b.reservedBytes = bytesFor c (max capacity b.length) := by
  rw [hb.paid.bytes, hb.room]

/-- Room for what the builder has room for anyway changes nothing. -/
theorem withRoom_self (hb : Exact capacity b) : b.withRoom (max capacity b.length) = b := by
  have hbytes : b.reservation = ⟨bytesFor c b.reservedElements⟩ :=
    congrArg Reservation.mk hb.paid.bytes
  rw [← hb.room, withRoom, ← hbytes]

/-- The count of the values that there is room for stays in its range. -/
theorem room_add_shortfall_le (hsized : c.Sized) (hb : Exact capacity b) (count : Nat) :
    b.reservedElements + b.shortfall count ≤ Size.limit := by
  have hroom : b.reservedElements < Size.limit :=
    lt_limit_of_bytesFor_le hsized (hb.paid.bytes ▸ hb.paid.counted)
  have hneeded : b.shortfall count = min (b.length + count) Size.limit - b.reservedElements := rfl
  omega

/-- Room for more values is denied if the bytes for all of them cannot be counted or the
pool refuses those that are missing. -/
def Denied (capacity : Nat) (b : BatchBuilder c) (p : Pool) (count : Nat) : Prop :=
  let total := bytesFor c (max capacity (b.length + count))
  Size.limit < total ∨ ∃ e, p.reserve (total - b.reservedBytes) = .error e

/-- Making room for more values is denied, or raises what is held to the bytes for all. -/
theorem reserve_cases (hsized : c.Sized) (hb : Exact capacity b) (p : Pool) (count : Nat) :
    let room := max capacity (b.length + count)
    (Denied capacity b p count ∧
      ∃ e, b.reserve p count = .error (.allocation "fill_array_builder" e)) ∨
    (¬ Denied capacity b p count ∧ bytesFor c room ≤ Size.limit ∧
      ∃ q, b.reserve p count = .ok (b.withRoom room, q)) := by
  intro room
  rw [BatchBuilder.reserve_eq hsized hb.paid, hb.room]
  by_cases hfits : b.length + count ≤ max capacity b.length
  · -- There is room for the batch, so nothing is asked of the pool.
    have hroom : room = max capacity b.length := by omega
    have htotal : bytesFor c room = b.reservedBytes := by rw [hb.reservedBytes, ← hroom]
    obtain ⟨r, hzero⟩ := p.reserve_zero
    rw [if_pos hfits, hroom, hb.withRoom_self, ← hb.reservedBytes]
    refine .inr ⟨?_, hb.paid.counted, p, rfl⟩
    change ¬ (Size.limit < bytesFor c room ∨
      ∃ e, p.reserve (bytesFor c room - b.reservedBytes) = .error e)
    rw [htotal, Nat.sub_self, hzero]
    simp [hb.paid.counted]
  · have hroom : room = b.length + count := by omega
    have hdenied : Denied capacity b p count ↔
        ∃ e, p.raise b.reservedBytes (bytesFor c room) = .error e := Pool.raise_eq_error_iff.symm
    rw [if_neg hfits, hdenied, ← hroom]
    cases hraise : p.raise b.reservedBytes (bytesFor c room) with
    | error e => exact .inl ⟨⟨e, rfl⟩, e, rfl⟩
    | ok q => exact .inr ⟨by simp, Pool.le_limit_of_raise hraise, q, rfl⟩

/-- A fill that takes its batch leaves the builder with the bytes for all of its values. -/
theorem of_fill (hc : c.Grows) (hsized : c.Sized) (hb : Exact capacity b)
    {larger : BatchBuilder c} {q : Pool} {batch : Batch α}
    (hfill : b.fill p batch = (.ok (), larger, q)) : Exact capacity larger := by
  have hextension := extendOpt_extension b p batch.values
  rw [← fill_eq_extendOpt, hfill] at hextension
  cases hextension with
  | taken _ hreserve happend =>
      obtain ⟨hunbroken, hlength⟩ := unbroken_of_taken hc hb.unbroken hreserve happend
      obtain ⟨-, e, hrefused⟩ | ⟨-, hcounted, r, hgranted⟩ :=
        hb.reserve_cases hsized p batch.values.length
      · rw [hreserve] at hrefused
        cases hrefused
      · rw [hreserve] at hgranted
        cases hgranted
        refine ⟨hunbroken, ⟨rfl, hcounted⟩, ?_⟩
        rw [hlength]
        rfl

end Exact

theorem Reachable.exact (hc : c.Grows) (hsized : c.Sized) {b : BatchBuilder c}
    (hb : Reachable capacity b) : Exact capacity b := by
  induction hb with
  | opened hopen => exact exact_of_openIn hc hopen
  | filled _ hfill ih => exact ih.of_fill hc hsized hfill

/-! ## Fills that are granted or refused -/

section Fill

variable {b larger : BatchBuilder c} {p q : Pool} {batch : Batch α}

theorem fill_of_reserve_error (hb : b.Unbroken) {e : Error}
    (hreserve : b.reserve p batch.values.length = .error e) :
    b.fill p batch = (.error (.context c.name e), { b with state := .poisoned }, p) := by
  rw [fill_eq_extendOpt, extendOpt, hb.usable]
  simp only [hreserve]

/-- A fill that is granted its memory fails only if a value is refused, and keeps the memory. -/
theorem fill_of_reserve_ok (hb : b.Unbroken)
    (hreserve : b.reserve p batch.values.length = .ok (larger, q)) :
    (b.fill p batch).1 = Error.within c.name (appendAll c b.column batch.values).1 ∧
      (b.fill p batch).2.1.reservedBytes = larger.reservedBytes := by
  rw [fill_eq_extendOpt, extendOpt, hb.usable]
  simp only [hreserve, (column_of_reserve hreserve).1]
  rcases appendAll c b.column batch.values with ⟨_ | _, last⟩
  · exact ⟨rfl, rfl⟩
  · exact ⟨rfl, rfl⟩

/-- The error of a batch is that of one of its values. -/
theorem exists_append_of_appendAll {column last : c.Builder} {values : List (Option α)} {e : Error}
    (happend : appendAll c column values = (.error e, last)) :
    ∃ mid value, c.append mid value = (.error e, last) := by
  obtain ⟨k, mid, hk, -, hrefused⟩ := appendAll_eq_error_iff.mp happend
  exact ⟨mid, values[k], hrefused⟩

end Fill

/-- Whatever batches a builder has taken, it holds the bytes of itself and of the larger of
its capacity and its length, and these can be counted. A further batch is refused, before
any value of it is looked at, exactly if the bytes for all values cannot be counted or the
pool refuses the difference; a batch that is not refused has those bytes reserved. So a fill
fails for want of memory then and only then, unless a value itself does. -/
theorem reservedBytes_of_reachable (hc : c.Grows) (hsized : c.Sized) {b : BatchBuilder c}
    (hb : Reachable capacity b) :
    (b.state = .empty ∨ b.state = .filling) ∧
    b.reservedBytes = c.builderSize + c.elementSize * max capacity b.length ∧
    b.reservedBytes ≤ Size.limit ∧
    ∀ (p : Pool) (batch : Batch α),
      let count := batch.values.length
      let total := c.builderSize + c.elementSize * max capacity (b.length + count)
      let denied := Size.limit < total ∨ ∃ e, p.reserve (total - b.reservedBytes) = .error e
      (denied → ∃ e, b.fill p batch =
        (.error (.context c.name (.allocation "fill_array_builder" e)),
          { b with state := .poisoned }, p)) ∧
      (¬ denied →
        b.reservedElements + b.shortfall count ≤ Size.limit ∧
        (b.fill p batch).1 = Error.within c.name (appendAll c b.column batch.values).1 ∧
        (b.fill p batch).2.1.reservedBytes = total) ∧
      ((∀ column value e next, c.append column value = (.error e, next) →
          e.isAllocation = false) →
        ((∃ e, (b.fill p batch).1 = .error e ∧ e.isAllocation = true) ↔ denied)) := by
  have hexact := hb.exact hc hsized
  have hstate : b.state = .empty ∨ b.state = .filling := by
    rw [hexact.unbroken, BuilderState.ofLength]
    split
    · exact .inl rfl
    · exact .inr rfl
  refine ⟨hstate, hexact.reservedBytes, hexact.paid.counted, fun p batch => ?_⟩
  intro count total denied
  obtain ⟨hdenied, e, hreserve⟩ | ⟨hallowed, -, q, hreserve⟩ := hexact.reserve_cases hsized p count
  · have hfill := fill_of_reserve_error hexact.unbroken hreserve
    have hallocation : ∃ e, (b.fill p batch).1 = .error e ∧ e.isAllocation = true :=
      ⟨_, congrArg Prod.fst hfill, rfl⟩
    exact ⟨fun _ => ⟨e, hfill⟩, fun h => absurd hdenied h,
      fun _ => iff_of_true hallocation hdenied⟩
  · obtain ⟨hanswer, hbytes⟩ := fill_of_reserve_ok hexact.unbroken hreserve
    have hroom := hexact.room_add_shortfall_le hsized count
    refine ⟨fun h => absurd h hallowed, fun _ => ⟨hroom, hanswer, hbytes⟩, fun hvalues => ?_⟩
    refine iff_of_false ?_ hallowed
    rintro ⟨e, hfail, hallocation⟩
    rw [hanswer] at hfail
    -- The batch was granted its memory, so the error is that of one of its values.
    rcases happend : appendAll c b.column batch.values with ⟨source | _, last⟩
    · rw [happend] at hfail
      cases hfail
      obtain ⟨mid, value, hvalue⟩ := exists_append_of_appendAll happend
      have hsource : source.isAllocation = true := hallocation
      rw [hvalues _ _ _ _ hvalue] at hsource
      cases hsource
    · rw [happend] at hfail
      cases hfail

end BatchBuilder

namespace Probe

theorem grows_unitCodec : unitCodec.Grows where
  withCapacity _ := rfl
  append_ok happend := by
    cases happend
    rfl

theorem sized_unitCodec : unitCodec.Sized := ⟨by decide, by decide⟩

open BatchBuilder in
/-- A builder with room for as many values as can be paid for takes one, and refuses more
than can be counted together with it. -/
theorem reservedBytes_largest :
    ∃ b larger p q batch e left, openIn unitCodec .unbounded (Size.limit - 16) = .ok (b, p) ∧
      b.fill p (.present [()]) = (.ok (), larger, q) ∧
      larger.reservedBytes = Size.limit ∧ batch.values.length = Size.limit ∧
      larger.fill q batch =
        (.error (.context "test.Unit" (.allocation "fill_array_builder" e)), left, q) := by
  have hraise : Pool.unbounded.raise 0 (bytesFor unitCodec (Size.limit - 16)) =
      .ok ⟨none, Size.limit⟩ := by
    decide
  have hopen : openIn unitCodec .unbounded (Size.limit - 16) =
      .ok (fresh unitCodec (Size.limit - 16), ⟨none, Size.limit⟩) := by
    rw [openIn_eq, hraise]
  have hfill : (fresh unitCodec (Size.limit - 16)).fill ⟨none, Size.limit⟩ (.present [()]) =
      (.ok (), { fresh unitCodec (Size.limit - 16) with
        column := ⟨1, Size.maxPresize⟩, state := .filling }, ⟨none, Size.limit⟩) := by
    have hreserve : (fresh unitCodec (Size.limit - 16)).reserve ⟨none, Size.limit⟩ 1 =
        .ok (fresh unitCodec (Size.limit - 16), ⟨none, Size.limit⟩) := by
      rw [reserve_eq_grown, if_pos (by decide)]
    have husable : (fresh unitCodec (Size.limit - 16)).usable "fill" = .ok () := rfl
    have hpresize : min (Size.limit - 16) Size.maxPresize = Size.maxPresize := by decide
    rw [fill_eq_extendOpt, extendOpt, husable]
    simp only [Batch.values, List.map, List.length, hreserve]
    simp only [fresh, unitCodec, hpresize]
    rfl
  obtain ⟨values, hlength⟩ : ∃ values : List (Option Unit), values.length = Size.limit :=
    ⟨.replicate Size.limit none, List.length_replicate⟩
  obtain ⟨-, hbytes, -, hfills⟩ := reservedBytes_of_reachable grows_unitCodec sized_unitCodec
    (.filled (.opened hopen) hfill)
  have hcounted : Size.limit < unitCodec.builderSize + unitCodec.elementSize *
      max (Size.limit - 16) (1 + values.length) := by
    rw [hlength]
    decide
  obtain ⟨e, hrefused⟩ := (hfills ⟨none, Size.limit⟩ (.optional values)).1 (.inl hcounted)
  refine ⟨_, _, _, _, .optional values, e, _, hopen, hfill, ?_, hlength, hrefused⟩
  exact hbytes.trans (by decide)

end Probe

end SpatialColumns
