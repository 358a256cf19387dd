import SpatialColumns.Proofs.BatchBuilder.Accounting

/-!
# How encoding fails

Encoding opens a builder, fills it once and seals it. Room for all values is
asked for when the builder is opened, so the fill has nothing left to ask for:
an encoding is refused its memory at the start or not at all. After that it
stops at the first value that is refused, or when the values do not make up a
column, and on every way out the builder returns what it was granted.
-/

namespace SpatialColumns

variable {α : Type} {c : Codec α} {p : Pool} {values : List (Option α)}

/-- Whether an error is one that a builder raises in the midst of its life: it is refused more
memory while it is filled, or it is used after it failed or after it was sealed. -/
def Error.ofLifecycle (e : Error) : Bool :=
  match e.root with
  | allocation operation _ => operation == "fill_array_builder"
  | poisoned _ => true
  | finalized _ _ => true
  | _ => false

/-- Who was refused raising what they hold learns of the total, cut off at the largest count,
and of what is left. -/
theorem Pool.eq_of_raise_error {total : Nat} {e : AllocationError}
    (h : p.raise 0 total = .error e) : e = ⟨min total Size.limit, p.available⟩ := by
  by_cases hcounted : total ≤ Size.limit
  · rw [p.raise_of_le 0 hcounted, Nat.sub_zero] at h
    rw [Nat.min_eq_left hcounted]
    exact eq_of_reserve_error h
  · rw [p.raise_of_lt 0 (Nat.lt_of_not_le hcounted)] at h
    rw [Nat.min_eq_right (Nat.le_of_not_le hcounted)]
    cases h
    rfl

namespace Codec

open BatchBuilder (bytesFor appendAll fresh)

/-- A codec whose builders start without values. -/
def StartsEmpty (c : Codec α) : Prop := ∀ capacity, c.length (c.withCapacity capacity) = 0

/-- Memory for a number of values is denied if their bytes cannot be counted or the pool
refuses them. -/
def Denied (c : Codec α) (p : Pool) (count : Nat) : Prop :=
  Size.limit < bytesFor c count ∨ ∃ e, p.reserve (bytesFor c count) = .error e

/-- The refusal of memory for a number of values: it names their bytes, cut off at the largest
count, and what is left in the pool. -/
def shortage (c : Codec α) (p : Pool) (count : Nat) : AllocationError :=
  ⟨min (bytesFor c count) Size.limit, p.available⟩

/-- The column builder that an encoding of a number of values starts from. -/
def blank (c : Codec α) (count : Nat) : c.Builder := c.withCapacity (min count Size.maxPresize)

/-- What a list of values is written as when memory is no concern. -/
def write (c : Codec α) (values : List (Option α)) : Except Error Column :=
  match appendAll c (c.blank values.length) values with
  | (.error e, _) => .error e
  | (.ok (), full) =>
    match c.finish full with
    | (.ok column, _) => .ok column
    | (.error e, _) => .error (.column "finish" e)

/-- Why an encoding fails. -/
inductive EncodeFailure (c : Codec α) (p : Pool) (values : List (Option α)) : Error → Prop
  /-- The memory for all values is denied. -/
  | memory (hdenied : c.Denied p values.length) :
      EncodeFailure c p values
        (.allocation "new_array_builder" (c.shortage p values.length))
  /-- A value is refused; those before it are taken. -/
  | value {k : Nat} {mid left : c.Builder} {e : Error} (hgranted : ¬ c.Denied p values.length)
      (hk : k < values.length)
      (htaken : appendAll c (c.blank values.length) (values.take k) = (.ok (), mid))
      (hrefused : c.append mid values[k] = (.error e, left)) :
      EncodeFailure c p values e
  /-- All values are taken, but do not make up a column. -/
  | column {full left : c.Builder} {e : ColumnError} (hgranted : ¬ c.Denied p values.length)
      (htaken : appendAll c (c.blank values.length) values = (.ok (), full))
      (hfinish : c.finish full = (.error e, left)) :
      EncodeFailure c p values (.column "finish" e)

/-- What is known of the answer to an encoding with a pool as it was at the call. -/
structure EncodeOutcome (c : Codec α) (p : Pool) (values : List (Option α))
    (answer : Except Error Column) : Prop where
  /-- An encoding fails for one of three reasons, under one added context. -/
  error_iff (e : Error) :
    answer = .error e ↔ ∃ source, e = .context c.name source ∧ EncodeFailure c p values source
  /-- Otherwise it gives the column of all values. -/
  ok_iff (column : Column) :
    answer = .ok column ↔ ¬ c.Denied p values.length ∧ ∃ full left,
      appendAll c (c.blank values.length) values = (.ok (), full) ∧
      c.finish full = (.ok column, left)
  /-- It fails for want of memory if and only if the memory for all values is denied, unless a
  value itself is refused for want of memory. -/
  allocation_iff
    (happend : ∀ column value e next, c.append column value = (.error e, next) →
      e.isAllocation = false) :
    (∃ e, answer = .error e ∧ e.isAllocation = true) ↔ c.Denied p values.length
  /-- It never fails in the midst of the builder's life, unless a value itself does. -/
  not_ofLifecycle
    (happend : ∀ column value e next, c.append column value = (.error e, next) →
      e.ofLifecycle = false) {e : Error} (herror : answer = .error e) :
    e.ofLifecycle = false

/-! ## The stages of an encoding -/

theorem raise_of_denied (hdenied : c.Denied p values.length) :
    p.raise 0 (bytesFor c values.length) = .error (c.shortage p values.length) := by
  have hraise : ∃ e, p.raise 0 (bytesFor c values.length) = .error e := by
    rw [Pool.raise_eq_error_iff, Nat.sub_zero]
    exact hdenied
  obtain ⟨e, herror⟩ := hraise
  rw [herror, Pool.eq_of_raise_error herror]
  rfl

theorem reserve_of_granted (hgranted : ¬ c.Denied p values.length) :
    ∃ q, p.raise 0 (bytesFor c values.length) = .ok q ∧
      p.reserve (bytesFor c values.length) = .ok q := by
  have hcounted : bytesFor c values.length ≤ Size.limit :=
    Nat.le_of_not_lt fun hlt => hgranted (.inl hlt)
  rw [p.raise_of_le 0 hcounted, Nat.sub_zero]
  cases hreserve : p.reserve (bytesFor c values.length) with
  | error e => exact absurd (.inr ⟨e, hreserve⟩) hgranted
  | ok q => exact ⟨q, rfl, rfl⟩

/-- The builder of an encoding has room for all values from the start. -/
theorem reserve_fresh (hc : c.StartsEmpty) (q : Pool) (count : Nat) :
    (fresh c count).reserve q count = .ok (fresh c count, q) := by
  have hshort : (fresh c count).shortfall count = 0 := by
    have hlength : (fresh c count).length = 0 := hc _
    rw [BatchBuilder.shortfall, hlength, Size.saturatingAdd, Nat.zero_add]
    exact Nat.sub_eq_zero_of_le (Nat.min_le_left ..)
  rw [BatchBuilder.reserve_eq_grown, if_pos hshort]

/-- The builder of an encoding after it has taken all values. -/
def loaded (c : Codec α) (count : Nat) (full : c.Builder) : BatchBuilder c :=
  { fresh c count with column := full, state := .ofLength (c.length full) }

/-- Sealing a builder that no call has failed on writes what it has taken under the codec's
name. -/
theorem finish_of_unbroken {b : BatchBuilder c} (hb : b.Unbroken) :
    b.finish.1 = Error.within c.name (match c.finish b.column with
      | (.ok column, _) => .ok column
      | (.error e, _) => .error (.column "finish" e)) := by
  rw [BatchBuilder.finish, hb.usable]
  rcases c.finish b.column with ⟨e | column, left⟩
  · rfl
  · rfl

/-- An encoding whose memory is granted writes the values under the codec's name, and returns
what it was granted. -/
theorem encodeOptIn_of_granted (hc : c.StartsEmpty) (hp : p.Counted)
    (hgranted : ¬ c.Denied p values.length) :
    c.encodeOptIn p values = (Error.within c.name (c.write values), p) := by
  obtain ⟨q, hraise, hreserve⟩ := reserve_of_granted hgranted
  have hreturned : q.release (bytesFor c values.length) = p := Pool.release_of_reserve hp hreserve
  have hopen : BatchBuilder.openIn c p values.length = .ok (fresh c values.length, q) := by
    rw [BatchBuilder.openIn_eq, hraise]
  have hfill := BatchBuilder.extendOpt_extension (fresh c values.length) q values
  rw [encodeOptIn, hopen, write]
  dsimp only
  generalize (fresh c values.length).extendOpt q values = filled at hfill
  cases hfill with
  | unusable hunusable => cases hunusable
  | refused _ hrefused =>
      -- Opening the builder has paid for all values, so the fill asks for nothing.
      rw [reserve_fresh hc] at hrefused
      cases hrefused
  | @stopped e larger _ left _ hroom happend =>
      rw [reserve_fresh hc] at hroom
      cases hroom
      have hstopped : appendAll c (c.blank values.length) values = (.error e, left) := happend
      rw [hstopped]
      exact Prod.ext rfl hreturned
  | @taken larger _ full _ hroom happend =>
      rw [reserve_fresh hc] at hroom
      cases hroom
      have htaken : appendAll c (c.blank values.length) values = (.ok (), full) := happend
      have hunbroken : (c.loaded values.length full).Unbroken := rfl
      have hbytes := (BatchBuilder.finish_sealing (c.loaded values.length full)).reservedBytes
      rw [htaken]
      exact Prod.ext (finish_of_unbroken hunbroken) ((congrArg q.release hbytes).trans hreturned)

/-- An encoding whose memory is denied does nothing. -/
theorem encodeOptIn_of_denied (hdenied : c.Denied p values.length) :
    c.encodeOptIn p values =
      (.error (.context c.name (.allocation "new_array_builder" (c.shortage p values.length))),
        p) := by
  rw [encodeOptIn, BatchBuilder.openIn_eq, raise_of_denied hdenied]

/-! ## Outcomes -/

theorem write_eq_ok_iff {column : Column} :
    c.write values = .ok column ↔ ∃ full left,
      appendAll c (c.blank values.length) values = (.ok (), full) ∧
      c.finish full = (.ok column, left) := by
  rw [write]
  constructor
  · intro hwrite
    rcases htaken : appendAll c (c.blank values.length) values with ⟨e | _, full⟩
    · rw [htaken] at hwrite
      cases hwrite
    · rcases hfinish : c.finish full with ⟨e | made, left⟩
      · simp only [htaken, hfinish] at hwrite
        cases hwrite
      · simp only [htaken, hfinish] at hwrite
        cases hwrite
        exact ⟨full, left, rfl, hfinish⟩
  · rintro ⟨full, left, htaken, hfinish⟩
    simp only [htaken, hfinish]

/-- Writing fails at the first value that is refused, or with the whole column. -/
theorem write_eq_error_iff (hgranted : ¬ c.Denied p values.length) {source : Error} :
    c.write values = .error source ↔ EncodeFailure c p values source := by
  rw [write]
  constructor
  · intro hwrite
    rcases htaken : appendAll c (c.blank values.length) values with ⟨e | _, full⟩
    · rw [htaken] at hwrite
      cases hwrite
      obtain ⟨k, mid, hk, hbefore, hrefused⟩ := BatchBuilder.appendAll_eq_error_iff.mp htaken
      exact .value hgranted hk hbefore hrefused
    · rcases hfinish : c.finish full with ⟨e | made, left⟩
      · simp only [htaken, hfinish] at hwrite
        cases hwrite
        exact .column hgranted htaken hfinish
      · simp only [htaken, hfinish] at hwrite
        cases hwrite
  · intro hfailure
    cases hfailure with
    | memory hdenied => exact absurd hdenied hgranted
    | value _ hk hbefore hrefused =>
        have hstopped := BatchBuilder.appendAll_eq_error_iff.mpr ⟨_, _, hk, hbefore, hrefused⟩
        rw [hstopped]
    | column _ htaken hfinish => simp only [htaken, hfinish]

theorem EncodeFailure.isAllocation_iff {source : Error} (h : EncodeFailure c p values source)
    (happend : ∀ column value e next, c.append column value = (.error e, next) →
      e.isAllocation = false) :
    source.isAllocation = true ↔ c.Denied p values.length := by
  cases h with
  | memory hdenied => exact iff_of_true rfl hdenied
  | value hgranted _ _ hrefused =>
      rw [happend _ _ _ _ hrefused]
      exact iff_of_false Bool.false_ne_true hgranted
  | column hgranted => exact iff_of_false Bool.false_ne_true hgranted

theorem EncodeFailure.not_ofLifecycle {source : Error} (h : EncodeFailure c p values source)
    (happend : ∀ column value e next, c.append column value = (.error e, next) →
      e.ofLifecycle = false) :
    source.ofLifecycle = false := by
  cases h with
  | memory => rfl
  | value _ _ _ hrefused => exact happend _ _ _ _ hrefused
  | column => rfl

/-- Every failure of an encoding is one of the three that are listed. -/
theorem encodeOptIn_eq_error_iff (hc : c.StartsEmpty) (hp : p.Counted) (e : Error) :
    (c.encodeOptIn p values).1 = .error e ↔
      ∃ source, e = .context c.name source ∧ EncodeFailure c p values source := by
  by_cases hdenied : c.Denied p values.length
  · rw [encodeOptIn_of_denied hdenied]
    constructor
    · intro herror
      cases herror
      exact ⟨_, rfl, .memory hdenied⟩
    · rintro ⟨source, rfl, hfailure⟩
      cases hfailure with
      | memory => rfl
      | value hgranted => exact absurd hdenied hgranted
      | column hgranted => exact absurd hdenied hgranted
  · rw [encodeOptIn_of_granted hc hp hdenied]
    constructor
    · intro herror
      cases hwrite : c.write values with
      | ok column =>
          rw [hwrite] at herror
          cases herror
      | error source =>
          rw [hwrite] at herror
          cases herror
          exact ⟨source, rfl, (write_eq_error_iff hdenied).mp hwrite⟩
    · rintro ⟨source, rfl, hfailure⟩
      rw [(write_eq_error_iff hdenied).mpr hfailure]
      rfl

theorem encodeOptIn_eq_ok_iff (hc : c.StartsEmpty) (hp : p.Counted) (column : Column) :
    (c.encodeOptIn p values).1 = .ok column ↔ ¬ c.Denied p values.length ∧ ∃ full left,
      appendAll c (c.blank values.length) values = (.ok (), full) ∧
      c.finish full = (.ok column, left) := by
  rw [← write_eq_ok_iff]
  by_cases hdenied : c.Denied p values.length
  · rw [encodeOptIn_of_denied hdenied]
    exact iff_of_false nofun fun h => h.1 hdenied
  · rw [encodeOptIn_of_granted hc hp hdenied, and_iff_right hdenied]
    cases c.write values with
    | error source => exact iff_of_false nofun nofun
    | ok made => exact Iff.rfl

theorem encodeOptIn_outcome (hc : c.StartsEmpty) (hp : p.Counted)
    (values : List (Option α)) : EncodeOutcome c p values (c.encodeOptIn p values).1 where
  error_iff := encodeOptIn_eq_error_iff hc hp
  ok_iff := encodeOptIn_eq_ok_iff hc hp
  allocation_iff happend := by
    constructor
    · rintro ⟨e, herror, hallocation⟩
      obtain ⟨source, rfl, hfailure⟩ := (encodeOptIn_eq_error_iff hc hp e).mp herror
      exact (hfailure.isAllocation_iff happend).mp hallocation
    · intro hdenied
      rw [encodeOptIn_of_denied hdenied]
      exact ⟨_, rfl, rfl⟩
  not_ofLifecycle happend e herror := by
    obtain ⟨source, rfl, hfailure⟩ := (encodeOptIn_eq_error_iff hc hp e).mp herror
    exact hfailure.not_ofLifecycle happend

theorem encodeOptIn_snd (hc : c.StartsEmpty) (hp : p.Counted) (values : List (Option α)) :
    (c.encodeOptIn p values).2 = p := by
  by_cases hdenied : c.Denied p values.length
  · rw [encodeOptIn_of_denied hdenied]
  · rw [encodeOptIn_of_granted hc hp hdenied]

/-- Encoding leaves its pool as it was, whatever others hold of it and however it ends. It is
denied its memory before it looks at any value, or it stops at the first value that is
refused, or with the column that all values make up; no other failure ever comes out of it,
with a pool of the caller's as with one of its own, and each has one added context. -/
theorem encode_outcome (hc : c.StartsEmpty) (hp : p.Counted) (values : List α)
    (optional : List (Option α)) :
    (c.encodeIn p values).2 = p ∧
    EncodeOutcome c p (values.map some) (c.encodeIn p values).1 ∧
    EncodeOutcome c .unbounded (values.map some) (c.encode values) ∧
    EncodeOutcome c .unbounded optional (c.encodeOpt optional) :=
  ⟨encodeOptIn_snd hc hp _, encodeOptIn_outcome hc hp _,
    encodeOptIn_outcome hc Pool.counted_unbounded _,
    encodeOptIn_outcome hc Pool.counted_unbounded _⟩

end Codec

namespace Probe.Faulty

theorem startsEmpty_codec : codec.StartsEmpty := fun _ => rfl

/-- The second of three numbers is refused, with half of the pool in the hands of others. -/
theorem encode_negative :
    codec.encodeIn ⟨some 1000, 500⟩ [⟨1⟩, ⟨-2⟩, ⟨3⟩] =
      (.error (.context "test.Faulty" (.invalidInput (.reported "faulty -2"))),
        ⟨some 1000, 500⟩) := by
  have hp : Pool.Counted ⟨some 1000, 500⟩ := by
    refine ⟨fun limit hlimit => ?_, by decide⟩
    cases hlimit
    decide
  have hgranted : ¬ codec.Denied ⟨some 1000, 500⟩ 3 := by
    rintro (hlarge | ⟨e, hrefused⟩)
    · exact absurd hlarge (by decide)
    · cases hrefused
  obtain ⟨hpool, houtcome, -, -⟩ := Codec.encode_outcome startsEmpty_codec hp
    [⟨1⟩, ⟨-2⟩, ⟨3⟩] []
  refine Prod.ext ((houtcome.error_iff _).mpr ⟨_, rfl, ?_⟩) hpool
  exact .value (k := 1) hgranted (by decide) rfl rfl

end Probe.Faulty

end SpatialColumns
