import SpatialColumns.Proofs.Codec.RoundTrip

/-!
# Batches leave no trace

A builder that has a bounded pool to itself holds the bytes for the larger of
its capacity and the number of values it has taken. A batch is refused exactly
when the values up to its end would take the builder over the limit, so only the
running total decides, not how it was divided into batches.
-/

namespace SpatialColumns

open DenseUnion (maxOffset)

namespace BatchBuilder

variable {α : Type} {c : Codec α}

/-- Takes batches up to the first one that fails. -/
def fillAll (b : BatchBuilder c) (p : Pool) :
    List (Batch α) → Except Error Unit × BatchBuilder c × Pool
  | [] => (.ok (), b, p)
  | batch :: batches =>
    match b.fill p batch with
    | (.error e, b, p) => (.error e, b, p)
    | (.ok (), b, p) => fillAll b p batches

/-- A builder with room for `capacity` values that has then taken some batches. -/
def openFilled (c : Codec α) (p : Pool) (capacity : Nat) (batches : List (Batch α)) :
    Except Error (BatchBuilder c × Pool) :=
  match openIn c p capacity with
  | .error e => .error e
  | .ok (b, p) =>
    match b.fillAll p batches with
    | (.error e, _) => .error e
    | (.ok (), b, p) => .ok (b, p)

end BatchBuilder

/-- The column of the values of some batches, built with memory from a pool. -/
def Codec.encodeBatches {α : Type} (c : Codec α) (p : Pool) (capacity : Nat)
    (batches : List (Batch α)) : Except Error Column :=
  match BatchBuilder.openFilled c p capacity batches with
  | .error e => .error e
  | .ok (b, _) => b.finish.1

namespace BatchBuilder

variable {α : Type} {c : Codec α} {holding : List (Option α) → c.Builder}
  {column : List (Option α) → Column} {limit room capacity : Nat}
  {values : List (Option α)}

/-! ## One batch -/

theorem reserve_drawn_of_le (h : c.Lawful holding column) (hc : c.Sized)
    (hlimit : limit ≤ Size.limit) {count : Nat}
    (hfits : bytesFor c (max room (values.length + count)) ≤ limit) :
    (filled holding room values).reserve (.drawn limit (bytesFor c room)) count =
      .ok (filled holding (max room (values.length + count)) values,
        .drawn limit (bytesFor c (max room (values.length + count)))) := by
  have hpaid : bytesFor c room ≤ Size.limit :=
    Nat.le_trans (bytesFor_le_bytesFor (Nat.le_max_left ..)) (Nat.le_trans hfits hlimit)
  by_cases hroom : values.length + count ≤ room
  · rw [Nat.max_eq_left hroom, reserve_filled h hc hpaid, if_pos hroom]
  · have hlt : room ≤ values.length + count := Nat.le_of_not_le hroom
    rw [Nat.max_eq_right hlt] at hfits ⊢
    have hraise := Pool.raise_drawn_of_le hlimit (bytesFor_le_bytesFor (c := c) hlt) hfits
    rw [reserve_filled h hc hpaid, if_neg hroom, hraise]

theorem reserve_drawn_of_lt (h : c.Lawful holding column) (hc : c.Sized)
    (hlimit : limit ≤ Size.limit) (hpaid : bytesFor c room ≤ limit) {count : Nat}
    (hover : limit < bytesFor c (max room (values.length + count))) :
    ∃ e, (filled holding room values).reserve (.drawn limit (bytesFor c room)) count =
      .error e := by
  have hroom : ¬ values.length + count ≤ room := by
    intro hroom
    rw [Nat.max_eq_left hroom] at hover
    omega
  rw [Nat.max_eq_right (Nat.le_of_not_le hroom)] at hover
  obtain ⟨e, hraise⟩ := Pool.raise_drawn_of_lt hpaid hover
  refine ⟨.allocation "fill_array_builder" e, ?_⟩
  rw [reserve_filled h hc (Nat.le_trans hpaid hlimit), if_neg hroom, hraise]

/-- A batch that stays below the limit is taken. -/
theorem fill_drawn_of_le (h : c.Lawful holding column) (hc : c.Sized)
    (hlimit : limit ≤ Size.limit) (room : Nat) (values : List (Option α)) {batch : Batch α}
    (hlength : (values ++ batch.values).length ≤ maxOffset)
    (hfits : bytesFor c (max room (values ++ batch.values).length) ≤ limit) :
    (filled holding room values).fill (.drawn limit (bytesFor c room)) batch =
      (.ok (), filled holding (max room (values ++ batch.values).length) (values ++ batch.values),
        .drawn limit (bytesFor c (max room (values ++ batch.values).length))) := by
  rw [List.length_append] at hlength hfits ⊢
  rw [fill_eq_extendOpt]
  exact extendOpt_filled h hlength (reserve_drawn_of_le h hc hlimit hfits)

/-- A batch that goes beyond the limit is refused. -/
theorem fill_drawn_of_lt (h : c.Lawful holding column) (hc : c.Sized)
    (hlimit : limit ≤ Size.limit) (room : Nat) (values : List (Option α))
    (hpaid : bytesFor c room ≤ limit) {batch : Batch α}
    (hover : limit < bytesFor c (max room (values ++ batch.values).length)) :
    ∃ e left, (filled holding room values).fill (.drawn limit (bytesFor c room)) batch =
      (.error e, left) := by
  rw [List.length_append] at hover
  obtain ⟨e, hreserve⟩ := reserve_drawn_of_lt h hc hlimit hpaid hover
  rw [fill_eq_extendOpt]
  unfold extendOpt
  rw [usable_filled]
  simp only [hreserve]
  exact ⟨_, _, rfl⟩

/-! ## All batches -/

/-- Room for some values and then for more is room for them all. -/
theorem max_max_length (room : Nat) (taken more : List (Option α)) :
    max (max room taken.length) (taken ++ more).length = max room (taken ++ more).length := by
  rw [List.length_append]
  omega

theorem append_flatMap_cons (values : List (Option α)) (batch : Batch α)
    (batches : List (Batch α)) :
    values ++ (batch :: batches).flatMap Batch.values =
      (values ++ batch.values) ++ batches.flatMap Batch.values := by
  rw [List.flatMap_cons, List.append_assoc]

/-- Batches that stay below the limit are all taken. -/
theorem fillAll_drawn_of_le (h : c.Lawful holding column) (hc : c.Sized)
    (hlimit : limit ≤ Size.limit) (room : Nat) (values : List (Option α))
    {batches : List (Batch α)}
    (hlength : (values ++ batches.flatMap Batch.values).length ≤ maxOffset)
    (hroom : values.length ≤ room)
    (hfits : bytesFor c (max room (values ++ batches.flatMap Batch.values).length) ≤ limit) :
    (filled holding room values).fillAll (.drawn limit (bytesFor c room)) batches =
      (.ok (), filled holding (max room (values ++ batches.flatMap Batch.values).length)
          (values ++ batches.flatMap Batch.values),
        .drawn limit
          (bytesFor c (max room (values ++ batches.flatMap Batch.values).length))) := by
  -- A batch moves the room on to the larger of itself and all values so far.
  induction batches generalizing room values with
  | nil =>
      simp only [List.flatMap_nil, List.append_nil, Nat.max_eq_left hroom]
      rfl
  | cons batch batches ih =>
      rw [append_flatMap_cons] at hlength hfits ⊢
      have hmore : (values ++ batch.values).length ≤
          ((values ++ batch.values) ++ batches.flatMap Batch.values).length :=
        (List.sublist_append_left _ _).length_le
      have hfill := fill_drawn_of_le h hc hlimit room values (Nat.le_trans hmore hlength)
        (Nat.le_trans (bytesFor_le_bytesFor (by omega)) hfits)
      have hrest := ih (max room _) (values ++ batch.values) hlength (Nat.le_max_right room _)
        (by rwa [max_max_length])
      rw [max_max_length] at hrest
      rw [fillAll, hfill]
      exact hrest

/-- Batches that go beyond the limit are not all taken. -/
theorem fillAll_drawn_of_lt (h : c.Lawful holding column) (hc : c.Sized)
    (hlimit : limit ≤ Size.limit) (room : Nat) (values : List (Option α))
    {batches : List (Batch α)}
    (hlength : (values ++ batches.flatMap Batch.values).length ≤ maxOffset)
    (hroom : values.length ≤ room) (hpaid : bytesFor c room ≤ limit)
    (hover : limit < bytesFor c (max room (values ++ batches.flatMap Batch.values).length)) :
    ∃ e left, (filled holding room values).fillAll (.drawn limit (bytesFor c room)) batches =
      (.error e, left) := by
  induction batches generalizing room values with
  | nil =>
      rw [List.flatMap_nil, List.append_nil, Nat.max_eq_left hroom] at hover
      exact absurd hpaid (Nat.not_le.mpr hover)
  | cons batch batches ih =>
      rw [append_flatMap_cons] at hlength hover
      have hmore : (values ++ batch.values).length ≤
          ((values ++ batch.values) ++ batches.flatMap Batch.values).length :=
        (List.sublist_append_left _ _).length_le
      rw [fillAll]
      by_cases hfits : bytesFor c (max room (values ++ batch.values).length) ≤ limit
      · rw [fill_drawn_of_le h hc hlimit room values (Nat.le_trans hmore hlength) hfits]
        exact ih _ _ hlength (Nat.le_max_right room _) hfits
          (by rwa [max_max_length])
      · obtain ⟨e, left, hfill⟩ :=
          fill_drawn_of_lt h hc hlimit room values hpaid (Nat.lt_of_not_le hfits)
        rw [hfill]
        exact ⟨_, _, rfl⟩

/-- A builder alone on its pool is opened and filled as long as the limit allows. -/
theorem openFilled_bounded_of_le (h : c.Lawful holding column) (hc : c.Sized)
    (hlimit : limit ≤ Size.limit) {batches : List (Batch α)}
    (hlength : (batches.flatMap Batch.values).length ≤ maxOffset)
    (hfits : bytesFor c (max capacity (batches.flatMap Batch.values).length) ≤ limit) :
    openFilled c (.bounded limit) capacity batches =
      .ok (filled holding (max capacity (batches.flatMap Batch.values).length)
          (batches.flatMap Batch.values),
        .drawn limit
          (bytesFor c (max capacity (batches.flatMap Batch.values).length))) := by
  have hopen : (Pool.bounded limit).raise 0 (bytesFor c capacity) =
      .ok (.drawn limit (bytesFor c capacity)) :=
    Pool.raise_drawn_of_le hlimit (Nat.zero_le _)
      (Nat.le_trans (bytesFor_le_bytesFor (Nat.le_max_left ..)) hfits)
  have hfill := fillAll_drawn_of_le h hc hlimit capacity [] hlength (Nat.zero_le capacity) hfits
  unfold openFilled
  rw [openIn_eq, hopen]
  simp only [fresh_eq_filled h, hfill]
  rfl

theorem openFilled_bounded_of_lt (h : c.Lawful holding column) (hc : c.Sized)
    (hlimit : limit ≤ Size.limit) {batches : List (Batch α)}
    (hlength : (batches.flatMap Batch.values).length ≤ maxOffset)
    (hover : limit < bytesFor c (max capacity (batches.flatMap Batch.values).length)) :
    ∃ e, openFilled c (.bounded limit) capacity batches = .error e := by
  unfold openFilled
  rw [openIn_eq]
  by_cases hpaid : bytesFor c capacity ≤ limit
  · have hopen : (Pool.bounded limit).raise 0 (bytesFor c capacity) =
        .ok (.drawn limit (bytesFor c capacity)) :=
      Pool.raise_drawn_of_le hlimit (Nat.zero_le _) hpaid
    obtain ⟨e, left, hfill⟩ := fillAll_drawn_of_lt h hc hlimit capacity [] hlength
      (Nat.zero_le capacity) hpaid hover
    rw [hopen]
    simp only [fresh_eq_filled h, hfill]
    exact ⟨_, rfl⟩
  · obtain ⟨e, hopen⟩ : ∃ e, (Pool.bounded limit).raise 0 (bytesFor c capacity) = .error e :=
      Pool.raise_drawn_of_lt (Nat.zero_le _) (Nat.lt_of_not_le hpaid)
    rw [hopen]
    exact ⟨_, rfl⟩

end BatchBuilder

namespace Kind

open BatchBuilder

theorem exists_openFilled_iff {k : Kind} (hk : k ∈ registered) {limit : Nat}
    (hlimit : limit ≤ Size.limit) (capacity : Nat) {batches : List (Batch k.Value)}
    (hlength : (batches.flatMap Batch.values).length ≤ maxOffset) :
    (∃ result, openFilled k.codec (.bounded limit) capacity batches = .ok result) ↔
      bytesFor k.codec (max capacity (batches.flatMap Batch.values).length) ≤ limit := by
  obtain ⟨holding, column, h, -⟩ := exists_encodeOpt_eq hk
  constructor
  · rintro ⟨result, hopen⟩
    refine Nat.le_of_not_lt fun hover => ?_
    obtain ⟨e, hrefused⟩ :=
      openFilled_bounded_of_lt h (sized_of_registered hk) hlimit hlength hover
    rw [hrefused] at hopen
    cases hopen
  · intro hfits
    exact ⟨_, openFilled_bounded_of_le h (sized_of_registered hk) hlimit hlength hfits⟩

/-- Values that are filled in batch by batch make up the column that they make up at once. -/
theorem encodeBatches_of_le {k : Kind} (hk : k ∈ registered) {limit : Nat}
    (hlimit : limit ≤ Size.limit) {capacity : Nat} {batches : List (Batch k.Value)}
    (hlength : (batches.flatMap Batch.values).length ≤ maxOffset)
    (hfits : bytesFor k.codec (max capacity (batches.flatMap Batch.values).length) ≤ limit) :
    ∃ column, k.codec.encodeBatches (.bounded limit) capacity batches = .ok column ∧
      k.codec.encodeOpt (batches.flatMap Batch.values) = .ok column := by
  obtain ⟨holding, column, h, hencode⟩ := exists_encodeOpt_eq hk
  refine ⟨_, ?_, hencode _ hlength⟩
  rw [Codec.encodeBatches,
    openFilled_bounded_of_le h (sized_of_registered hk) hlimit hlength hfits]
  exact finish_filled h hlength

/-- Batching is invisible. A builder alone on a bounded pool gets through its opening and
the batches up to any one exactly if it and the values up to there, or as many as it was
opened for, take no more than the limit. Then finishing succeeds too, and the column is
that of all values at once. -/
theorem encodeBatches_eq_encodeOpt {k : Kind} (hk : k ∈ registered) (limit : Nat)
    (hlimit : limit ≤ Size.limit) (capacity : Nat) (batches : List (Batch k.Value))
    (hlength : (batches.flatMap Batch.values).length ≤ 2 ^ 31 - 1) :
    (∀ done, (∃ result, openFilled k.codec (.bounded limit) capacity (batches.take done) =
        .ok result) ↔
      k.codec.builderSize + k.codec.elementSize *
        max capacity ((batches.take done).flatMap Batch.values).length ≤ limit) ∧
    ((∃ column, k.codec.encodeBatches (.bounded limit) capacity batches = .ok column) ↔
      k.codec.builderSize + k.codec.elementSize *
        max capacity (batches.flatMap Batch.values).length ≤ limit) ∧
    ∀ column, k.codec.encodeBatches (.bounded limit) capacity batches = .ok column →
      k.codec.encodeOpt (batches.flatMap Batch.values) = .ok column := by
  have hopen := exists_openFilled_iff hk hlimit capacity hlength
  have hfits_of_ok : ∀ column,
      k.codec.encodeBatches (.bounded limit) capacity batches = .ok column →
        bytesFor k.codec (max capacity (batches.flatMap Batch.values).length) ≤ limit := by
    intro column hencode
    apply hopen.mp
    cases hresult : openFilled k.codec (.bounded limit) capacity batches with
    | error e =>
        rw [Codec.encodeBatches, hresult] at hencode
        cases hencode
    | ok result => exact ⟨result, rfl⟩
  refine ⟨?_, ⟨?_, ?_⟩, ?_⟩
  · intro done
    apply exists_openFilled_iff hk hlimit capacity
    have hsplit := congrArg List.length (congrArg (List.flatMap Batch.values)
      (List.take_append_drop done batches))
    rw [List.flatMap_append, List.length_append] at hsplit
    exact Nat.le_trans (Nat.le.intro hsplit) hlength
  · rintro ⟨column, hencode⟩
    exact hfits_of_ok column hencode
  · intro hfits
    obtain ⟨column, hencode, -⟩ := encodeBatches_of_le hk hlimit hlength hfits
    exact ⟨column, hencode⟩
  · intro column hencode
    obtain ⟨_, hbatches, honce⟩ :=
      encodeBatches_of_le hk hlimit hlength (hfits_of_ok column hencode)
    rw [hbatches] at hencode
    cases hencode
    exact honce

/-- Three values in three batches, one of them empty, with room for two ahead of time:
192 bytes for the builder and 12 for each of the three values are just enough. -/
theorem encodeBatches_three_vectors :
    (∃ column, vec3D.codec.encodeBatches (.bounded 228) 2
        [.present [Vec3D.one], .optional [], .optional [none, some Vec3D.zero]] = .ok column ∧
      vec3D.codec.encodeOpt [some Vec3D.one, none, some Vec3D.zero] = .ok column) ∧
    ¬ ∃ column, vec3D.codec.encodeBatches (.bounded 227) 2
        [.present [Vec3D.one], .optional [], .optional [none, some Vec3D.zero]] = .ok column := by
  have henough := encodeBatches_eq_encodeOpt (k := vec3D) (by decide) 228 (by decide) 2
    [.present [Vec3D.one], .optional [], .optional [none, some Vec3D.zero]] (by decide)
  have hscarce := encodeBatches_eq_encodeOpt (k := vec3D) (by decide) 227 (by decide) 2
    [.present [Vec3D.one], .optional [], .optional [none, some Vec3D.zero]] (by decide)
  constructor
  · obtain ⟨column, hencode⟩ := henough.2.1.mpr (by decide)
    exact ⟨column, hencode, henough.2.2 column hencode⟩
  · intro hencode
    exact absurd (hscarce.2.1.mp hencode) (by decide)

end Kind

end SpatialColumns
