import SpatialColumns.Pool

/-!
# What pools count

A bounded pool grants a request as long as the count stays below the limit. So
neither a granted request nor the return of bytes that are held ever takes the
count out of its range, and sums modulo `2 ^ 64` are sums. An unbounded pool
grants everything, and what it counts is known up to multiples of `2 ^ 64`.
-/

namespace SpatialColumns

namespace Pool

variable {limit held total : Nat}

/-- Raises what is held from `held` bytes to `total`, if so many can be counted. -/
def raise (p : Pool) (held total : Nat) : Except AllocationError Pool :=
  if total ≤ Size.limit then p.reserve (total - held) else .error p.overflow

theorem raise_of_le (p : Pool) (held : Nat) {total : Nat} (h : total ≤ Size.limit) :
    p.raise held total = p.reserve (total - held) :=
  if_pos h

theorem raise_of_lt (p : Pool) (held : Nat) {total : Nat} (h : Size.limit < total) :
    p.raise held total = .error p.overflow :=
  if_neg (Nat.not_le.mpr h)

/-- What cannot be counted is not granted. -/
theorem le_limit_of_raise {p q : Pool} {held total : Nat} (h : p.raise held total = .ok q) :
    total ≤ Size.limit := by
  by_cases hle : total ≤ Size.limit
  · exact hle
  · rw [p.raise_of_lt held (Nat.lt_of_not_le hle)] at h
    cases h

/-- A pool refuses by naming the request and what is left. -/
theorem eq_of_reserve_error {p : Pool} {bytes : Nat} {e : AllocationError}
    (h : p.reserve bytes = .error e) : e = ⟨bytes, p.available⟩ := by
  obtain ⟨_ | limit, reserved⟩ := p
  · cases h
  · simp only [reserve] at h
    split at h
    · cases h
      rfl
    · cases h

/-- A pool whose limit, if it has one, and whose count are sizes. -/
structure Counted (p : Pool) : Prop where
  limit : ∀ limit, p.limit = some limit → limit ≤ Size.limit
  reserved : p.reserved ≤ Size.limit

theorem counted_unbounded : unbounded.Counted := ⟨nofun, Nat.zero_le _⟩

/-- Whatever others hold, a granted request that is returned leaves the pool as it was. -/
theorem release_of_reserve {p q : Pool} {bytes : Nat} (hp : p.Counted)
    (h : p.reserve bytes = .ok q) : q.release bytes = p := by
  obtain ⟨_ | limit, reserved⟩ := p
  · cases h
    simp only [release, Size.wrappingSub_wrappingAdd bytes hp.reserved]
  · have hlimit : limit ≤ Size.limit := hp.limit limit rfl
    have hreserved : reserved ≤ Size.limit := hp.reserved
    simp only [reserve] at h
    split at h
    next => cases h
    next hroom =>
      cases h
      -- More may be held than the limit; then nothing but a request for no bytes is granted.
      have hsum : reserved + bytes ≤ Size.limit := by omega
      have hback : reserved + bytes - bytes = reserved := Nat.add_sub_cancel ..
      simp only [release, Size.wrappingSub_of_le (Nat.le_add_left bytes reserved) hsum, hback]

/-- A bounded pool of which so many bytes are held. -/
def drawn (limit held : Nat) : Pool := { limit := some limit, reserved := held }

/-- Whoever holds all that is drawn from a pool can raise it up to the limit. -/
theorem raise_drawn_of_le (hlimit : limit ≤ Size.limit) (hheld : held ≤ total)
    (htotal : total ≤ limit) : (drawn limit held).raise held total = .ok (drawn limit total) := by
  have hroom : ¬ limit - held < total - held := by omega
  have hsum : held + (total - held) = total := by omega
  rw [raise_of_le _ _ (Nat.le_trans htotal hlimit), reserve, drawn]
  simp only [if_neg hroom, hsum]
  rfl

/-- Nobody can raise what is held beyond the limit. -/
theorem raise_drawn_of_lt (hheld : held ≤ limit) (htotal : limit < total) :
    ∃ e, (drawn limit held).raise held total = .error e := by
  have hroom : limit - held < total - held := by omega
  by_cases hcounted : total ≤ Size.limit
  · rw [raise_of_le _ _ hcounted, reserve, drawn]
    exact ⟨_, if_pos hroom⟩
  · rw [raise_of_lt _ _ (Nat.lt_of_not_le hcounted)]
    exact ⟨_, rfl⟩

/-- A granted request adds to what is drawn, which stays below the limit. -/
theorem reserve_drawn_eq_ok {bytes : Nat} {q : Pool} (hheld : held ≤ limit)
    (h : (drawn limit held).reserve bytes = .ok q) :
    q = drawn limit (held + bytes) ∧ held + bytes ≤ limit := by
  rw [reserve, drawn] at h
  by_cases hroom : limit - held < bytes
  · simp only [if_pos hroom] at h
    cases h
  · simp only [if_neg hroom] at h
    cases h
    exact ⟨rfl, by omega⟩

/-- Returning bytes that are held takes them off the count. -/
theorem release_drawn {bytes : Nat} (hlimit : limit ≤ Size.limit) (hheld : held ≤ limit)
    (hbytes : bytes ≤ held) : (drawn limit held).release bytes = drawn limit (held - bytes) := by
  rw [release, drawn, drawn, Size.wrappingSub_of_le hbytes (Nat.le_trans hheld hlimit)]

/-- Some bytes are granted and some are returned, and on the way the count leaves
neither end of its range. -/
structure Moves (limit : Nat) (p : Pool) (granted returned : Nat) (q : Pool) : Prop where
  path : ∃ mid, p.reserve granted = .ok mid ∧ q = mid.release returned
  grow : p.reserved + granted ≤ limit
  shrink : returned ≤ p.reserved + granted
  exact : q.reserved = p.reserved + granted - returned

theorem moves_drawn {granted returned : Nat} (hlimit : limit ≤ Size.limit)
    (hgrow : held + granted ≤ limit) (hshrink : returned ≤ held + granted) :
    Moves limit (drawn limit held) granted returned (drawn limit (held + granted - returned)) where
  path := by
    have hroom : ¬ limit - held < granted := by omega
    refine ⟨drawn limit (held + granted), if_neg hroom, ?_⟩
    rw [release_drawn hlimit hgrow hshrink]
  grow := hgrow
  shrink := hshrink
  exact := rfl

/-! ## Pools by what is held of them -/

/-- An unbounded pool of which so many bytes are held. -/
def tallied (held : Nat) : Pool := { limit := none, reserved := held % Size.modulus }

/-- Pools that are known by the bytes held of them. Such a pool grants a request for which
there is room, refuses any other by naming it and what is left, and takes off what is returned. -/
structure Counts (count : Nat → Pool) (Room : Nat → Prop) : Prop where
  less {held more : Nat} (hmore : Room more) (hheld : held ≤ more) : Room held
  granted {held bytes : Nat} (hroom : Room (held + bytes)) :
    (count held).reserve bytes = .ok (count (held + bytes))
  refused {held bytes : Nat} (hheld : Room held) (hfull : ¬ Room (held + bytes)) :
    (count held).reserve bytes = .error ⟨bytes, (count held).available⟩
  returned {held bytes : Nat} (hheld : Room held) (hbytes : bytes ≤ held) :
    (count held).release bytes = count (held - bytes)

/-- A bounded pool has room up to its limit. -/
theorem counts_drawn (hlimit : limit ≤ Size.limit) : Counts (drawn limit) (· ≤ limit) where
  less hmore hheld := Nat.le_trans hheld hmore
  granted {held bytes} hroom := by
    have hfits : ¬ limit - held < bytes := by omega
    exact if_neg hfits
  refused {held bytes} hheld hfull := by
    have hlarge : limit - held < bytes := by omega
    exact if_pos hlarge
  returned hheld hbytes := release_drawn hlimit hheld hbytes

/-- An unbounded pool always has room. -/
theorem counts_tallied : Counts tallied fun _ => True where
  less _ _ := trivial
  granted {held bytes} _ := by
    rw [reserve, tallied, tallied]
    simp only [Size.wrappingAdd_mod]
  refused _ hfull := absurd trivial hfull
  returned {held bytes} _ hbytes := by
    rw [release, tallied, tallied, Size.wrappingSub_mod hbytes]

end Pool

namespace Reservation

variable {count : Nat → Pool} {Room : Nat → Prop} {held bytes : Nat} {r : Reservation}

theorem openIn_of_room (hcount : Pool.Counts count Room) (hroom : Room (held + bytes)) :
    openIn (count held) bytes = .ok (⟨bytes⟩, count (held + bytes)) := by
  rw [openIn, hcount.granted hroom]

theorem openIn_of_full (hcount : Pool.Counts count Room) (hheld : Room held)
    (hfull : ¬ Room (held + bytes)) :
    openIn (count held) bytes = .error ⟨bytes, (count held).available⟩ := by
  rw [openIn, hcount.refused hheld hfull]

theorem grow_of_room (hcount : Pool.Counts count Room) (htotal : r.size + bytes ≤ Size.limit)
    (hroom : Room (held + bytes)) :
    r.grow (count held) bytes = .ok (⟨r.size + bytes⟩, count (held + bytes)) := by
  rw [grow, Size.add?_eq_some_iff.mpr ⟨rfl, htotal⟩]
  simp only [hcount.granted hroom]

/-- A refused growth names what was requested, or the largest count if the total cannot be
counted. -/
theorem grow_of_full (hcount : Pool.Counts count Room) (hheld : Room held)
    (hfull : r.size + bytes ≤ Size.limit → ¬ Room (held + bytes)) :
    r.grow (count held) bytes = .error
      ⟨if r.size + bytes ≤ Size.limit then bytes else Size.limit, (count held).available⟩ := by
  rw [grow]
  by_cases htotal : r.size + bytes ≤ Size.limit
  · rw [Size.add?_eq_some_iff.mpr ⟨rfl, htotal⟩, if_pos htotal]
    simp only [hcount.refused hheld (hfull htotal)]
  · rw [Size.add?_eq_none_iff.mpr (Nat.lt_of_not_le htotal), if_neg htotal]
    rfl

end Reservation

end SpatialColumns
