import Mathlib.Algebra.Order.BigOperators.Group.List
import SpatialColumns.Proofs.Session.Conservation

/-!
# A shared pool counts what reservations hold

Any number of reservations are opened on one pool, grown and closed. Whatever
kind of pool it is, it counts the sum of what they hold: a bounded pool as it
is, since it never has room for more than its limit, and an unbounded one up
to multiples of `2 ^ 64`. So a bounded pool grants a request exactly if it fits
into what is left, while an unbounded pool may come to count less than a single
reservation holds.
-/

namespace SpatialColumns

/-- The steps that open, grow or close a reservation, of sizes that are counts. -/
def Step.OnReservations {F : CodecFamily} : Step F → Prop
  | .openReservation _ _ bytes | .growReservation _ bytes => bytes ≤ Size.limit
  | .closeReservation _ => True
  | _ => False

namespace Session

variable {F : CodecFamily} {count : Nat → Pool} {Room : Nat → Prop} {limit bytes : Nat}
  {s : Session F} {id : String} {live : LiveReservation}

/-! ## Sizes -/

/-- The bytes that some reservations hold. -/
def sizeOf (reservations : List (String × LiveReservation)) : Nat :=
  (reservations.map (·.2.reservation.size)).sum

/-- The bytes that all reservations hold. -/
def reservedSize (s : Session F) : Nat := sizeOf s.reservations

/-- The bytes that the reservation of a name holds, if there is one. -/
def boundSize (s : Session F) (id : String) : Nat :=
  match s.reservations.lookup id with
  | some live => live.reservation.size
  | none => 0

theorem boundSize_of_lookup (hlive : s.reservations.lookup id = some live) :
    s.boundSize id = live.reservation.size := by
  rw [boundSize, hlive]

theorem size_le_reservedSize {entry : String × LiveReservation} (hmem : entry ∈ s.reservations) :
    entry.2.reservation.size ≤ s.reservedSize :=
  List.le_sum_of_mem (List.mem_map_of_mem hmem)

/-- The only pool counts what the reservations hold, and has room for it. -/
structure Accurate (count : Nat → Pool) (Room : Nat → Prop) (s : Session F) : Prop where
  pools : s.pools = [count s.reservedSize]
  room : Room s.reservedSize
  ids : (s.reservations.map (·.1)).Nodup
  home : ∀ entry ∈ s.reservations, entry.2.pool = 0
  sizes : ∀ entry ∈ s.reservations, entry.2.reservation.size ≤ Size.limit

namespace Accurate

theorem home_of_lookup (h : Accurate count Room s)
    (hlive : s.reservations.lookup id = some live) : live.pool = 0 :=
  h.home _ (mem_of_lookup hlive)

theorem sizeOf_unbind (h : Accurate count Room s) (id : String) :
    sizeOf (unbind id s.reservations) + s.boundSize id = s.reservedSize := by
  unfold boundSize
  cases hlive : s.reservations.lookup id with
  | none => rw [unbind_of_lookup_none hlive]; rfl
  | some live => exact sum_unbind (·.reservation.size) h.ids hlive

theorem boundSize_le (h : Accurate count Room s) (id : String) :
    s.boundSize id ≤ s.reservedSize :=
  h.sizeOf_unbind id ▸ Nat.le_add_left ..

/-- Without the reservation of a name, and with its bytes returned, the count stays accurate. -/
theorem unbind (hcount : Pool.Counts count Room) (h : Accurate count Room s) (id : String) :
    Accurate count Room { s with
      pools := [count (s.reservedSize - s.boundSize id)]
      reservations := Session.unbind id s.reservations } := by
  have hsum := h.sizeOf_unbind id
  have hleft : s.reservedSize - s.boundSize id = sizeOf (Session.unbind id s.reservations) := by
    omega
  refine ⟨?_, ?_, nodup_unbind h.ids id, ?_, ?_⟩
  · rw [hleft]
    rfl
  · apply hcount.less h.room
    change sizeOf (Session.unbind id s.reservations) ≤ s.reservedSize
    omega
  · intro entry hmem
    exact h.home entry (List.mem_filter.mp hmem).1
  · intro entry hmem
    exact h.sizes entry (List.mem_filter.mp hmem).1

/-- With a reservation bound anew, and the difference counted, the count stays accurate. -/
theorem bind (h : Accurate count Room s) (id : String) (live : LiveReservation)
    (hpool : live.pool = 0) (hsize : live.reservation.size ≤ Size.limit) {held : Nat}
    (hheld : held + s.boundSize id = s.reservedSize + live.reservation.size) (hroom : Room held) :
    Accurate count Room { s with
      pools := [count held]
      reservations := Session.bind id live s.reservations } := by
  have hsum := h.sizeOf_unbind id
  have hbind : sizeOf (Session.bind id live s.reservations) =
      live.reservation.size + sizeOf (Session.unbind id s.reservations) := List.sum_cons
  have hall : held = sizeOf (Session.bind id live s.reservations) := by omega
  refine ⟨?_, ?_, nodup_bind h.ids id live, ?_, ?_⟩
  · rw [hall]
    rfl
  · rw [hall] at hroom
    exact hroom
  · intro entry hmem
    rcases List.mem_cons.mp hmem with rfl | hrest
    · exact hpool
    · exact h.home entry (List.mem_filter.mp hrest).1
  · intro entry hmem
    rcases List.mem_cons.mp hmem with rfl | hrest
    · exact hsize
    · exact h.sizes entry (List.mem_filter.mp hrest).1

end Accurate

/-! ## Steps -/

/-- Closing a reservation returns its bytes, if the pool has counted them. -/
theorem closeReservation_eq (hcount : Pool.Counts count Room) (id : String) {held : Nat}
    (hpools : s.pools = [count held]) (hheld : Room held) (hbound : s.boundSize id ≤ held)
    (hhome : ∀ live, s.reservations.lookup id = some live → live.pool = 0) :
    s.closeReservation id = { s with
      pools := [count (held - s.boundSize id)]
      reservations := unbind id s.reservations } := by
  unfold closeReservation boundSize at *
  cases hlive : s.reservations.lookup id with
  | none => rw [unbind_of_lookup_none hlive, Nat.sub_zero, ← hpools]
  | some live =>
      rw [hlive] at hbound
      simp only [hhome live hlive, giveBack, hpools, List.modify_zero_cons,
        hcount.returned hheld hbound]

section Steps

variable (hcount : Pool.Counts count Room) (h : Accurate count Room s)

include hcount h

/-- What there is room for is granted: the new reservation holds it, and one that had the name
returns its bytes afterwards. -/
theorem openReservation_of_room (id : String) (hroom : Room (s.reservedSize + bytes)) :
    s.step (.openReservation id 0 bytes) = (.size bytes, { s with
      pools := [count (s.reservedSize + bytes - s.boundSize id)]
      reservations := bind id ⟨0, ⟨bytes⟩⟩ s.reservations }) := by
  have hbound : s.boundSize id ≤ s.reservedSize + bytes :=
    Nat.le_trans (h.boundSize_le id) (Nat.le_add_right ..)
  have hclose : (s.setPool 0 (count (s.reservedSize + bytes))).closeReservation id = _ :=
    closeReservation_eq hcount id (by rw [setPool, h.pools]; rfl) hroom hbound
      fun _ => h.home_of_lookup
  rw [step, onPool, h.pools]
  simp only [List.getElem?_cons_zero, Reservation.openIn_of_room hcount hroom, hclose,
    bindReservation, bind_unbind]
  rfl

theorem openReservation_of_full (id : String) (hfull : ¬ Room (s.reservedSize + bytes)) :
    s.step (.openReservation id 0 bytes) =
      (.refused ⟨bytes, (count s.reservedSize).available⟩, s) := by
  rw [step, onPool, h.pools]
  simp only [List.getElem?_cons_zero, Reservation.openIn_of_full hcount h.room hfull]

/-- A growth that can be counted and for which there is room is granted. -/
theorem growReservation_of_room (hlive : s.reservations.lookup id = some live)
    (htotal : live.reservation.size + bytes ≤ Size.limit)
    (hroom : Room (s.reservedSize + bytes)) :
    s.step (.growReservation id bytes) =
      (.grown none (live.reservation.size + bytes) (count (s.reservedSize + bytes)).reserved,
        { s with
          pools := [count (s.reservedSize + bytes)]
          reservations := bind id ⟨0, ⟨live.reservation.size + bytes⟩⟩ s.reservations }) := by
  rw [step, onReservation, hlive]
  simp only [onPool, h.home_of_lookup hlive, h.pools, List.getElem?_cons_zero,
    Reservation.grow_of_room hcount htotal hroom, setPool, bindReservation, List.set_cons_zero]

theorem growReservation_of_full (hlive : s.reservations.lookup id = some live)
    (hfull : live.reservation.size + bytes ≤ Size.limit → ¬ Room (s.reservedSize + bytes)) :
    s.step (.growReservation id bytes) =
      (.grown (some ⟨if live.reservation.size + bytes ≤ Size.limit then bytes else Size.limit,
          (count s.reservedSize).available⟩)
        live.reservation.size (count s.reservedSize).reserved, s) := by
  rw [step, onReservation, hlive]
  simp only [onPool, h.home_of_lookup hlive, h.pools, List.getElem?_cons_zero,
    Reservation.grow_of_full hcount h.room hfull]

/-- Any step on reservations keeps the count accurate. -/
theorem accurate_step (next : Step F) (hnext : next.OnReservations) :
    Accurate count Room (s.step next).2 := by
  cases next with
  | openReservation id pool bytes =>
      cases pool with
      | succ pool =>
          rw [step, onPool, h.pools]
          exact h
      | zero =>
          by_cases hroom : Room (s.reservedSize + bytes)
          · have hbound := h.boundSize_le id
            rw [openReservation_of_room hcount h id hroom]
            refine h.bind id ⟨0, ⟨bytes⟩⟩ rfl hnext ?_ (hcount.less hroom (Nat.sub_le ..))
            exact Nat.sub_add_cancel (Nat.le_trans hbound (Nat.le_add_right ..))
          · rw [openReservation_of_full hcount h id hroom]
            exact h
  | growReservation id bytes =>
      cases hlive : s.reservations.lookup id with
      | none =>
          rw [step, onReservation, hlive]
          exact h
      | some live =>
          by_cases hgranted : live.reservation.size + bytes ≤ Size.limit ∧
              Room (s.reservedSize + bytes)
          · obtain ⟨htotal, hroom⟩ := hgranted
            rw [growReservation_of_room hcount h hlive htotal hroom]
            -- The new size takes the place of the old one, so the sum rises by `bytes` only.
            refine h.bind id ⟨0, ⟨live.reservation.size + bytes⟩⟩ rfl htotal ?_ hroom
            change s.reservedSize + bytes + s.boundSize id =
              s.reservedSize + (live.reservation.size + bytes)
            rw [boundSize_of_lookup hlive]
            omega
          · have hfull := not_and.mp hgranted
            rw [growReservation_of_full hcount h hlive hfull]
            exact h
  | closeReservation id =>
      rw [step, onReservation]
      cases hlive : s.reservations.lookup id with
      | none => exact h
      | some live =>
          have hclose := closeReservation_eq hcount id h.pools h.room (h.boundSize_le id)
            fun _ => h.home_of_lookup
          simp only [hclose]
          exact h.unbind hcount id
  | openBuilder | extend | finish | describe | closeBuilder => exact hnext.elim
  | encode | reserve | release | describePool => exact hnext.elim

end Steps

/-! ## Runs -/

/-- The sessions that one pool and any steps on reservations lead to. -/
inductive ReservedFrom (p : Pool) : Session F → Prop
  | start : ReservedFrom p { pools := [p] }
  | step {s : Session F} (hs : ReservedFrom p s) (next : Step F) (hnext : next.OnReservations) :
      ReservedFrom p (s.step next).2

/-- From a pool of which nothing is held, every count that is reached is accurate. -/
theorem accurate_of_reservedFrom (hcount : Pool.Counts count Room) (hnone : Room 0)
    (hs : ReservedFrom (count 0) s) : Accurate count Room s := by
  induction hs with
  | start => exact ⟨rfl, hnone, .nil, nofun, nofun⟩
  | step hs next hnext ih => exact accurate_step hcount ih next hnext

/-! ## Bounded pools -/

theorem accurate_of_bounded (hlimit : limit ≤ Size.limit) (hs : ReservedFrom (.bounded limit) s) :
    Accurate (.drawn limit) (· ≤ limit) s :=
  accurate_of_reservedFrom (Pool.counts_drawn hlimit) (Nat.zero_le limit) hs

/-- On a bounded pool a growth whose total cannot be counted is one the limit refuses too. -/
theorem lt_bytes_of_overflow (hlimit : limit ≤ Size.limit)
    (h : Accurate (.drawn limit) (· ≤ limit) s) (hlive : s.reservations.lookup id = some live)
    (hover : Size.limit < live.reservation.size + bytes) : limit - s.reservedSize < bytes := by
  have hsize : live.reservation.size ≤ s.reservedSize :=
    size_le_reservedSize (mem_of_lookup hlive)
  have hroom : s.reservedSize ≤ limit := h.room
  omega

theorem openReservation_bounded (hlimit : limit ≤ Size.limit)
    (h : Accurate (.drawn limit) (· ≤ limit) s) (id : String) (bytes : Nat) :
    s.step (.openReservation id 0 bytes) =
      if bytes ≤ limit - s.reservedSize then
        (.size bytes, { s with
          pools := [.drawn limit (s.reservedSize + bytes - s.boundSize id)]
          reservations := bind id ⟨0, ⟨bytes⟩⟩ s.reservations })
      else (.refused ⟨bytes, limit - s.reservedSize⟩, s) := by
  have hcount := Pool.counts_drawn hlimit
  have hroom : s.reservedSize ≤ limit := h.room
  by_cases hfits : bytes ≤ limit - s.reservedSize
  · rw [if_pos hfits]
    exact openReservation_of_room hcount h id (by omega)
  · rw [if_neg hfits]
    exact openReservation_of_full hcount h id (by omega)

theorem growReservation_bounded (hlimit : limit ≤ Size.limit)
    (h : Accurate (.drawn limit) (· ≤ limit) s) (hlive : s.reservations.lookup id = some live)
    (bytes : Nat) :
    s.step (.growReservation id bytes) =
      if bytes ≤ limit - s.reservedSize then
        (.grown none (live.reservation.size + bytes) (s.reservedSize + bytes), { s with
          pools := [.drawn limit (s.reservedSize + bytes)]
          reservations := bind id ⟨0, ⟨live.reservation.size + bytes⟩⟩ s.reservations })
      else
        (.grown (some ⟨if live.reservation.size + bytes ≤ Size.limit then bytes else Size.limit,
            limit - s.reservedSize⟩)
          live.reservation.size s.reservedSize, s) := by
  have hcount := Pool.counts_drawn hlimit
  have hroom : s.reservedSize ≤ limit := h.room
  by_cases hfits : bytes ≤ limit - s.reservedSize
  · -- The reservation's own check refuses nothing that the limit would grant.
    have htotal : live.reservation.size + bytes ≤ Size.limit := Nat.le_of_not_lt fun hover =>
      Nat.not_le_of_lt (lt_bytes_of_overflow hlimit h hlive hover) hfits
    rw [if_pos hfits]
    exact growReservation_of_room hcount h hlive htotal (by omega)
  · rw [if_neg hfits]
    exact growReservation_of_full hcount h hlive fun _ => by omega

/-- One bounded pool and any number of reservations on it, after any history of requests,
refusals and closings. The pool counts the sum of their sizes, which is no more than its limit.
A request is granted if and only if it fits into what is left, and then it is counted in full
and the reservation holds it on top of what it held. A refused request changes nothing, and
names what was requested and what is left; only a growth whose total cannot be counted names
the largest count instead, and the limit refuses that one too. Nothing is left without room
for a request of no bytes. -/
theorem step_of_bounded (hlimit : limit ≤ Size.limit) (hs : ReservedFrom (.bounded limit) s) :
    let held := s.reservedSize
    (∃ p, s.pools = [p] ∧ p.limit = some limit ∧ p.reserved = held ∧ held ≤ limit ∧
      p.available = limit - held) ∧
    (∀ id bytes, s.step (.openReservation id 0 bytes) =
      if bytes ≤ limit - held then
        (.size bytes, { s with
          pools := [.drawn limit (held + bytes - s.boundSize id)]
          reservations := bind id ⟨0, ⟨bytes⟩⟩ s.reservations })
      else (.refused ⟨bytes, limit - held⟩, s)) ∧
    (∀ id live, s.reservations.lookup id = some live →
      let size := live.reservation.size
      (∀ bytes, s.step (.growReservation id bytes) =
        if bytes ≤ limit - held then
          (.grown none (size + bytes) (held + bytes), { s with
            pools := [.drawn limit (held + bytes)]
            reservations := bind id ⟨0, ⟨size + bytes⟩⟩ s.reservations })
        else
          (.grown (some ⟨if size + bytes ≤ Size.limit then bytes else Size.limit, limit - held⟩)
            size held, s)) ∧
      (∀ bytes, Size.limit < size + bytes → limit - held < bytes) ∧
      (s.step (.growReservation id 0)).1 = .grown none size held) ∧
    ∀ id, (s.step (.openReservation id 0 0)).1 = .size 0 := by
  have h := accurate_of_bounded hlimit hs
  refine ⟨⟨_, h.pools, rfl, rfl, h.room, rfl⟩, openReservation_bounded hlimit h, ?_, ?_⟩
  · intro id live hlive
    refine ⟨growReservation_bounded hlimit h hlive,
      fun bytes hover => lt_bytes_of_overflow hlimit h hlive hover, ?_⟩
    rw [growReservation_bounded hlimit h hlive, if_pos (Nat.zero_le _)]
    rfl
  · intro id
    rw [openReservation_bounded hlimit h, if_pos (Nat.zero_le _)]

/-- Of 128 bytes, 100 are held; 29 more are refused, and so is more than can be counted. -/
theorem step_of_bounded_hundred :
    ∃ s : Session kinds, ReservedFrom (.bounded 128) s ∧ s.reservedSize = 100 ∧
      s.step (.growReservation "a" 29) = (.grown (some ⟨29, 28⟩) 100 100, s) ∧
      s.step (.growReservation "a" Size.limit) = (.grown (some ⟨Size.limit, 28⟩) 100 100, s) ∧
      (s.step (.growReservation "a" 28)).1 = .grown none 128 128 := by
  have hs : ReservedFrom (.bounded 128)
      ((⟨[.bounded 128], [], []⟩ : Session kinds).step (.openReservation "a" 0 100)).2 :=
    .step .start _ (by decide : 100 ≤ Size.limit)
  obtain ⟨-, -, hgrow, -⟩ := step_of_bounded (by decide) hs
  obtain ⟨hstep, -, -⟩ := hgrow "a" ⟨0, ⟨100⟩⟩ rfl
  exact ⟨_, hs, rfl, hstep 29, hstep Size.limit, congrArg Prod.fst (hstep 28)⟩

/-! ## Unbounded pools -/

theorem accurate_of_unbounded (hs : ReservedFrom .unbounded s) :
    Accurate Pool.tallied (fun _ => True) s :=
  accurate_of_reservedFrom Pool.counts_tallied trivial hs

theorem growReservation_unbounded (h : Accurate Pool.tallied (fun _ => True) s)
    (hlive : s.reservations.lookup id = some live) (bytes : Nat) :
    (s.step (.growReservation id bytes)).1 =
      if live.reservation.size + bytes ≤ Size.limit then
        .grown none (live.reservation.size + bytes) ((s.reservedSize + bytes) % Size.modulus)
      else
        .grown (some ⟨Size.limit, Size.limit - s.reservedSize % Size.modulus⟩)
          live.reservation.size (s.reservedSize % Size.modulus) := by
  by_cases htotal : live.reservation.size + bytes ≤ Size.limit
  · rw [if_pos htotal, growReservation_of_room Pool.counts_tallied h hlive htotal trivial]
    rfl
  · rw [if_neg htotal, growReservation_of_full Pool.counts_tallied h hlive
      fun hcounted => absurd hcounted htotal, if_neg htotal]
    rfl

/-- One unbounded pool and any number of reservations on it, after any history of requests and
closings. The pool counts the sum of their sizes up to multiples of `2 ^ 64`: exactly if the
sum is a count, and then no less than any one of them. It grants every request but a growth
whose own total cannot be counted, so the sum may be larger than that. When the last
reservation is closed, nothing is counted. -/
theorem pools_of_unbounded (hs : ReservedFrom .unbounded s) :
    let held := s.reservedSize
    (∃ p, s.pools = [p] ∧ p.limit = none ∧ p.reserved = held % Size.modulus ∧
      p.available = Size.limit - p.reserved ∧
      (p.reserved = held ↔ held ≤ Size.limit) ∧
      (held ≤ Size.limit → ∀ entry ∈ s.reservations, entry.2.reservation.size ≤ p.reserved)) ∧
    (∀ entry ∈ s.reservations, entry.2.reservation.size ≤ Size.limit) ∧
    (∀ id bytes, (s.step (.openReservation id 0 bytes)).1 = .size bytes) ∧
    (∀ id live bytes, s.reservations.lookup id = some live →
      let size := live.reservation.size
      (s.step (.growReservation id bytes)).1 =
        if size + bytes ≤ Size.limit then
          .grown none (size + bytes) ((held + bytes) % Size.modulus)
        else
          .grown (some ⟨Size.limit, Size.limit - held % Size.modulus⟩) size
            (held % Size.modulus)) ∧
    (s.reservations = [] → s.pools = [.unbounded]) := by
  intro held
  have h := accurate_of_unbounded hs
  have hexact : held % Size.modulus = held ↔ held ≤ Size.limit := by
    unfold Size.limit Size.modulus
    omega
  refine ⟨⟨_, h.pools, rfl, rfl, rfl, hexact, ?_⟩, h.sizes, ?_, ?_, ?_⟩
  · intro hcounted entry hmem
    have hreserved : (Pool.tallied s.reservedSize).reserved = held := hexact.mpr hcounted
    rw [hreserved]
    exact size_le_reservedSize hmem
  · intro id bytes
    rw [openReservation_of_room Pool.counts_tallied h id trivial]
  · intro id live bytes hlive
    exact growReservation_unbounded h hlive bytes
  · intro hnone
    rw [h.pools, reservedSize, hnone]
    rfl

/-- Two reservations that together hold no more than can be counted. -/
theorem pools_of_unbounded_exact :
    ∃ s : Session kinds, ReservedFrom .unbounded s ∧ s.reservedSize = 157 ∧
      ∃ p, s.pools = [p] ∧ p.reserved = 157 ∧ p.available = Size.limit - 157 := by
  have hfirst : ReservedFrom .unbounded
      ((⟨[.unbounded], [], []⟩ : Session kinds).step (.openReservation "a" 0 150)).2 :=
    .step .start _ (by decide : 150 ≤ Size.limit)
  have hsecond := hfirst.step (.openReservation "b" 0 7) (by decide : 7 ≤ Size.limit)
  obtain ⟨⟨p, hp, -, hreserved, havailable, -⟩, -⟩ := pools_of_unbounded hsecond
  refine ⟨_, hsecond, rfl, p, hp, hreserved, ?_⟩
  rw [havailable, hreserved]
  rfl

/-- With as many bytes held as can be counted, one more is granted. Then nothing is counted,
which is neither what the two reservations hold nor as much as the first one does. -/
theorem pools_of_unbounded_wrapped :
    ∃ (s : Session kinds) (p : Pool), ReservedFrom .unbounded s ∧
      s.reservations = [("b", ⟨0, ⟨1⟩⟩), ("a", ⟨0, ⟨Size.limit⟩⟩)] ∧ s.pools = [p] ∧
      p.reserved = 0 ∧ p.reserved ≠ s.reservedSize ∧ p.reserved < Size.limit ∧
      p.available = Size.limit := by
  have hfirst : ReservedFrom .unbounded
      ((⟨[.unbounded], [], []⟩ : Session kinds).step (.openReservation "a" 0 Size.limit)).2 :=
    .step .start _ (Nat.le_refl Size.limit)
  have hsecond := hfirst.step (.openReservation "b" 0 1) (by decide : 1 ≤ Size.limit)
  exact ⟨_, ⟨none, 0⟩, hsecond, rfl, rfl, rfl, by decide, by decide, rfl⟩

end Session

end SpatialColumns
