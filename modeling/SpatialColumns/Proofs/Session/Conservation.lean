import Mathlib.Algebra.Order.Ring.Nat
import SpatialColumns.Kind
import SpatialColumns.Proofs.BatchBuilder.Reservation
import SpatialColumns.Session

/-!
# A shared pool counts what its builders hold

Any number of builders, of any kinds, draw on one bounded pool. A step opens,
fills, finishes or closes one of them, and may fail at any point. Whatever the
step, the pool's count changes by what was granted and by what was returned, and
afterwards is the sum of what the builders hold.
-/

namespace SpatialColumns

/-- The steps that open, fill, finish, describe or close a builder. -/
def Step.OnBuilders {F : CodecFamily} : Step F → Prop
  | .openBuilder .. | .extend .. | .finish _ | .describe _ | .closeBuilder _ => True
  | _ => False

namespace Session

/-! ## Names -/

section Names

variable {α : Type} {entries : List (String × α)} {id : String} {value : α}

theorem unbind_of_lookup_none (h : entries.lookup id = none) : unbind id entries = entries := by
  rw [unbind, List.filter_eq_self]
  intro entry hmem
  have hne := List.lookup_eq_none_iff.mp h entry hmem
  refine decide_eq_true fun hname => ?_
  simp [hname] at hne

theorem mem_of_lookup (h : entries.lookup id = some value) : (id, value) ∈ entries := by
  obtain ⟨before, after, rfl, -⟩ := List.lookup_eq_some_iff.mp h
  exact List.mem_append_right _ List.mem_cons_self

theorem nodup_unbind (hids : (entries.map (·.1)).Nodup) (id : String) :
    ((unbind id entries).map (·.1)).Nodup :=
  hids.sublist (List.filter_sublist.map _)

theorem nodup_bind (hids : (entries.map (·.1)).Nodup) (id : String) (value : α) :
    ((bind id value entries).map (·.1)).Nodup := by
  rw [bind, List.map_cons, List.nodup_cons]
  refine ⟨?_, nodup_unbind hids id⟩
  rintro hmem
  obtain ⟨entry, hentry, hname⟩ := List.mem_map.mp hmem
  have hne := (List.mem_filter.mp hentry).2
  simp [hname] at hne

theorem bind_unbind (id : String) (value : α) (entries : List (String × α)) :
    bind id value (unbind id entries) = bind id value entries := by
  rw [bind, unbind, List.filter_filter, bind]
  simp only [Bool.and_self]

/-- Of names that are all different, the first one goes with its own entry only. -/
theorem unbind_cons_self (hid : id ∉ entries.map (·.1)) :
    unbind id ((id, value) :: entries) = entries := by
  rw [unbind, List.filter_cons_of_neg (by simp), List.filter_eq_self]
  intro entry hmem
  refine decide_eq_true fun hname => hid ?_
  exact List.mem_map.mpr ⟨entry, hmem, hname⟩

/-- Under names that are all different, what has a name and the rest make up the whole. -/
theorem sum_unbind (f : α → Nat) (hids : (entries.map (·.1)).Nodup)
    (h : entries.lookup id = some value) :
    ((unbind id entries).map (f ·.2)).sum + f value = (entries.map (f ·.2)).sum := by
  induction entries with
  | nil => cases h
  | cons entry entries ih =>
      obtain ⟨name, first⟩ := entry
      rw [List.map_cons, List.nodup_cons] at hids
      rw [List.lookup_cons] at h
      by_cases hname : id = name
      · subst hname
        rw [beq_self_eq_true] at h
        cases h
        rw [unbind_cons_self hids.1, List.map_cons, List.sum_cons, Nat.add_comm]
      · rw [beq_false_of_ne hname] at h
        have hhead : unbind id ((name, first) :: entries) = (name, first) :: unbind id entries :=
          List.filter_cons_of_pos (decide_eq_true (Ne.symm hname))
        rw [hhead, List.map_cons, List.sum_cons, List.map_cons, List.sum_cons, Nat.add_assoc,
          ih hids.2 h]

end Names

/-! ## Balance -/

variable {F : CodecFamily} {limit : Nat} {s : Session F} {id : String}

/-- The bytes that some builders hold. -/
def bytesOf (builders : List (String × LiveBuilder F)) : Nat :=
  (builders.map (·.2.builder.reservedBytes)).sum

/-- The bytes that all builders hold. -/
def heldBytes (s : Session F) : Nat := bytesOf s.builders

/-- The bytes that the builder of a name holds, if there is one. -/
def boundBytes (s : Session F) (id : String) : Nat :=
  match s.builders.lookup id with
  | some live => live.builder.reservedBytes
  | none => 0

theorem boundBytes_of_lookup {live : LiveBuilder F} (hlive : s.builders.lookup id = some live) :
    s.boundBytes id = live.builder.reservedBytes := by
  rw [boundBytes, hlive]

/-- The only pool counts what the builders hold, which is no more than its limit. -/
structure Balanced (limit : Nat) (s : Session F) : Prop where
  pools : s.pools = [.drawn limit s.heldBytes]
  bounded : s.heldBytes ≤ limit
  ids : (s.builders.map (·.1)).Nodup
  home : ∀ entry ∈ s.builders, entry.2.pool = 0
  reservations : s.reservations = []

namespace Balanced

theorem home_of_lookup (h : Balanced limit s) {live : LiveBuilder F}
    (hlive : s.builders.lookup id = some live) : live.pool = 0 :=
  h.home _ (mem_of_lookup hlive)

theorem bytesOf_unbind (h : Balanced limit s) (id : String) :
    bytesOf (unbind id s.builders) + s.boundBytes id = s.heldBytes := by
  unfold boundBytes
  cases hlive : s.builders.lookup id with
  | none => rw [unbind_of_lookup_none hlive]; rfl
  | some live => exact sum_unbind (·.builder.reservedBytes) h.ids hlive

/-- Without the builder of a name, and with its bytes returned, a session stays balanced. -/
theorem unbind (h : Balanced limit s) (id : String) :
    Balanced limit { s with
      pools := [.drawn limit (s.heldBytes - s.boundBytes id)]
      builders := Session.unbind id s.builders } := by
  have hbytes := h.bytesOf_unbind id
  have hheld : s.heldBytes - s.boundBytes id = bytesOf (Session.unbind id s.builders) := by omega
  refine ⟨?_, ?_, nodup_unbind h.ids id, ?_, h.reservations⟩
  · rw [hheld]
    rfl
  · have := h.bounded
    change bytesOf (Session.unbind id s.builders) ≤ limit
    omega
  · intro entry hmem
    exact h.home entry (List.mem_filter.mp hmem).1

/-- With a builder bound anew, and the difference drawn, a session stays balanced. -/
theorem bind (h : Balanced limit s) (id : String) {live : LiveBuilder F} (hpool : live.pool = 0)
    (held : Nat) (hheld : held + s.boundBytes id = s.heldBytes + live.builder.reservedBytes)
    (hbounded : held ≤ limit) :
    Balanced limit { s with
      pools := [.drawn limit held]
      builders := Session.bind id live s.builders } := by
  have hbytes := h.bytesOf_unbind id
  have hsum : bytesOf (Session.bind id live s.builders) =
      live.builder.reservedBytes + bytesOf (Session.unbind id s.builders) := List.sum_cons
  have hall : held = bytesOf (Session.bind id live s.builders) := by omega
  refine ⟨?_, ?_, nodup_bind h.ids id live, ?_, h.reservations⟩
  · rw [hall]
    rfl
  · change bytesOf (Session.bind id live s.builders) ≤ limit
    omega
  · intro entry hmem
    rcases List.mem_cons.mp hmem with rfl | hrest
    · exact hpool
    · exact h.home entry (List.mem_filter.mp hrest).1

end Balanced

/-- Closing a builder returns its bytes, if the pool has counted them. -/
theorem closeBuilder_eq (hlimit : limit ≤ Size.limit) (id : String) {held : Nat}
    (hpools : s.pools = [.drawn limit held]) (hheld : held ≤ limit)
    (hbound : s.boundBytes id ≤ held)
    (hhome : ∀ live, s.builders.lookup id = some live → live.pool = 0) :
    s.closeBuilder id = { s with
      pools := [.drawn limit (held - s.boundBytes id)]
      builders := Session.unbind id s.builders } := by
  unfold closeBuilder boundBytes at *
  cases hlive : s.builders.lookup id with
  | none =>
      rw [unbind_of_lookup_none hlive, Nat.sub_zero, ← hpools]
  | some live =>
      rw [hlive] at hbound
      simp only [hhome live hlive, giveBack, hpools, List.modify_zero_cons,
        Pool.release_drawn hlimit hheld hbound]

/-- In a balanced session the pool has counted what a builder returns. -/
theorem closeBuilder_of_balanced (hlimit : limit ≤ Size.limit) (h : Balanced limit s)
    (id : String) :
    s.closeBuilder id = { s with
      pools := [.drawn limit (s.heldBytes - s.boundBytes id)]
      builders := unbind id s.builders } := by
  have hbytes := h.bytesOf_unbind id
  exact closeBuilder_eq hlimit id h.pools h.bounded (by omega) fun _ => h.home_of_lookup

/-! ## Steps -/

/-- A fill was granted memory before one of its values was refused. -/
def GrantedThenRefused (s : Session F) (p : Pool) (step : Step F) (granted : Nat) : Prop :=
  ∃ id values live larger q source column, step = .extend id values ∧
    s.builders.lookup id = some live ∧
    live.builder.reserve p (values live.kind).length = .ok (larger, q) ∧
    larger.reservedBytes = live.builder.reservedBytes + granted ∧
    BatchBuilder.appendAll (F.codec live.kind) larger.column (values live.kind) =
      (.error source, column)

/-- What a step from one session to another moves in and out of the builders. A failing
step moves nothing, or what its fill was granted before it failed. -/
structure Accounted (limit : Nat) (s : Session F) (step : Step F) (granted returned : Nat)
    (result : Answer × Session F) : Prop where
  balanced : Balanced limit result.2
  moves : Pool.Moves limit (.drawn limit s.heldBytes) granted returned
    (.drawn limit result.2.heldBytes)
  failed : ∀ e, result.1 = .failed e →
    returned = 0 ∧
      (granted = 0 ∨ GrantedThenRefused s (.drawn limit s.heldBytes) step granted)

theorem accounted_self (hlimit : limit ≤ Size.limit) (h : Balanced limit s) (step : Step F)
    (answer : Answer) : Accounted limit s step 0 0 (answer, s) where
  balanced := h
  moves := Pool.moves_drawn hlimit h.bounded (Nat.zero_le _)
  failed _ _ := ⟨rfl, .inl rfl⟩

/-- Binding a builder is accounted for by the difference to what had the name before. -/
theorem accounted_bind (hlimit : limit ≤ Size.limit) (h : Balanced limit s) {step : Step F}
    {answer : Answer} (id : String) (live : LiveBuilder F) (hpool : live.pool = 0)
    (granted returned : Nat) (hgrow : s.heldBytes + granted ≤ limit)
    (hshrink : returned ≤ s.heldBytes + granted)
    (hbytes : granted + s.boundBytes id = live.builder.reservedBytes + returned)
    (hfailed : ∀ e, answer = .failed e → returned = 0 ∧
      (granted = 0 ∨ GrantedThenRefused s (.drawn limit s.heldBytes) step granted)) :
    Accounted limit s step granted returned (answer, { s with
      pools := [.drawn limit (s.heldBytes + granted - returned)]
      builders := bind id live s.builders }) := by
  have hbalanced := h.bind id hpool (s.heldBytes + granted - returned) (by omega) (by omega)
  have hheld : s.heldBytes + granted - returned = bytesOf (bind id live s.builders) := by
    have := hbalanced.pools
    simp only [List.cons.injEq, Pool.drawn, Pool.mk.injEq, true_and, and_true] at this
    exact this
  refine ⟨hbalanced, ?_, hfailed⟩
  change Pool.Moves limit _ granted returned (.drawn limit (bytesOf (bind id live s.builders)))
  rw [← hheld]
  exact Pool.moves_drawn hlimit hgrow hshrink

theorem bindBuilder_setPool (h : Balanced limit s) (id : String) (live : LiveBuilder F)
    (held : Nat) : (s.setPool 0 (.drawn limit held)).bindBuilder id live = { s with
      pools := [.drawn limit held]
      builders := bind id live s.builders } := by
  rw [bindBuilder, setPool, h.pools]
  rfl

/-- What a builder reserves is what the pool counts on top. -/
theorem reserve_drawn {α : Type} {c : Codec α} {b larger : BatchBuilder c} {held count : Nat}
    {q : Pool} (hheld : held ≤ limit)
    (hreserve : b.reserve (.drawn limit held) count = .ok (larger, q)) :
    ∃ granted, q = .drawn limit (held + granted) ∧ held + granted ≤ limit ∧
      larger.reservedBytes = b.reservedBytes + granted := by
  obtain ⟨rfl, rfl⟩ | ⟨bytes, rfl, hgranted⟩ := BatchBuilder.reserve_eq_ok hreserve
  · exact ⟨0, rfl, hheld, rfl⟩
  · obtain ⟨rfl, hgrow⟩ := Pool.reserve_drawn_eq_ok hheld hgranted
    exact ⟨bytes, rfl, hgrow, rfl⟩

theorem accounted_openBuilder (hlimit : limit ≤ Size.limit) (h : Balanced limit s)
    (id : String) (pool : Nat) (kind : F.Kind) (capacity : Nat) :
    ∃ granted returned, Accounted limit s (.openBuilder id pool kind capacity) granted returned
      (s.step (.openBuilder id pool kind capacity)) := by
  rw [step, onPool, h.pools]
  cases pool with
  | succ pool => exact ⟨0, 0, accounted_self hlimit h _ _⟩
  | zero =>
      simp only [List.getElem?_cons_zero, BatchBuilder.openIn_eq]
      cases hraise : (Pool.drawn limit s.heldBytes).raise 0
          (BatchBuilder.bytesFor (F.codec kind) capacity) with
      | error e => exact ⟨0, 0, accounted_self hlimit h _ _⟩
      | ok q =>
          rw [Pool.raise_of_le _ _ (Pool.le_limit_of_raise hraise)] at hraise
          obtain ⟨rfl, hgrow⟩ := Pool.reserve_drawn_eq_ok h.bounded hraise
          have hbound := h.bytesOf_unbind id
          rw [Nat.sub_zero] at hgrow ⊢
          have hshrink : s.boundBytes id ≤
              s.heldBytes + BatchBuilder.bytesFor (F.codec kind) capacity := by omega
          refine ⟨BatchBuilder.bytesFor (F.codec kind) capacity, s.boundBytes id, ?_⟩
          -- A builder that had the name goes only after the new one has drawn its bytes.
          have hclose : (s.setPool 0 (.drawn limit
              (s.heldBytes + BatchBuilder.bytesFor (F.codec kind) capacity))).closeBuilder id = _ :=
            closeBuilder_eq hlimit id (by rw [setPool, h.pools]; rfl) hgrow hshrink
              fun _ => h.home_of_lookup
          simp only [hclose, bindBuilder, bind_unbind]
          exact accounted_bind hlimit h id ⟨0, kind, .fresh (F.codec kind) capacity⟩ rfl _ _ hgrow
            hshrink rfl nofun

theorem accounted_extend (hlimit : limit ≤ Size.limit) (h : Balanced limit s) (id : String)
    (values : (k : F.Kind) → List (Option (F.Value k))) :
    ∃ granted returned, Accounted limit s (.extend id values) granted returned
      (s.step (.extend id values)) := by
  rw [step, onBuilder]
  cases hlive : s.builders.lookup id with
  | none => exact ⟨0, 0, accounted_self hlimit h _ _⟩
  | some live =>
      have hextension := live.builder.extendOpt_extension (.drawn limit s.heldBytes)
        (values live.kind)
      simp only [onPool, h.home_of_lookup hlive, h.pools, List.getElem?_cons_zero]
      generalize live.builder.extendOpt (.drawn limit s.heldBytes) (values live.kind) = result
        at hextension ⊢
      have hbound := boundBytes_of_lookup hlive
      cases hextension with
      | unusable hunusable =>
          rw [bindBuilder_setPool h]
          refine ⟨0, 0, accounted_bind hlimit h id ⟨0, live.kind, live.builder⟩ rfl 0 0 h.bounded
            (Nat.zero_le _) ?_ fun _ _ => ⟨rfl, .inl rfl⟩⟩
          rw [hbound, Nat.zero_add, Nat.add_zero]
      | refused husable hreserve =>
          rw [bindBuilder_setPool h]
          refine ⟨0, 0, accounted_bind hlimit h id
            ⟨0, live.kind, { live.builder with state := .poisoned }⟩ rfl 0 0 h.bounded
            (Nat.zero_le _) ?_ fun _ _ => ⟨rfl, .inl rfl⟩⟩
          rw [hbound, Nat.zero_add, Nat.add_zero]
          rfl
      | @stopped e larger q column husable hreserve happend =>
          obtain ⟨granted, rfl, hgrow, hlarger⟩ := reserve_drawn h.bounded hreserve
          rw [bindBuilder_setPool h]
          refine ⟨granted, 0, accounted_bind hlimit h id
            ⟨0, live.kind, { larger with column := column, state := .poisoned }⟩ rfl granted 0
            hgrow (Nat.zero_le _) ?_ ?_⟩
          · rw [hbound, Nat.add_zero, Nat.add_comm]
            exact hlarger.symm
          · intro _ _
            exact ⟨rfl, .inr ⟨id, values, live, larger, _, e, column, rfl, hlive, hreserve,
              hlarger, happend⟩⟩
      | @taken larger q column husable hreserve happend =>
          obtain ⟨granted, rfl, hgrow, hlarger⟩ := reserve_drawn h.bounded hreserve
          rw [bindBuilder_setPool h]
          refine ⟨granted, 0, accounted_bind hlimit h id ⟨0, live.kind, { larger with
            column := column
            state := if (F.codec live.kind).length column = 0 then larger.state else .filling }⟩
            rfl granted 0 hgrow (Nat.zero_le _) ?_ nofun⟩
          rw [hbound, Nat.add_zero, Nat.add_comm]
          exact hlarger.symm

theorem accounted_finish (hlimit : limit ≤ Size.limit) (h : Balanced limit s) (id : String) :
    ∃ granted returned, Accounted limit s (.finish id) granted returned (s.step (.finish id)) := by
  rw [step, onBuilder]
  cases hlive : s.builders.lookup id with
  | none => exact ⟨0, 0, accounted_self hlimit h _ _⟩
  | some live =>
      have hbytes := live.builder.finish_sealing.reservedBytes
      simp only
      generalize live.builder.finish = result at hbytes ⊢
      obtain ⟨answer, b⟩ := result
      refine ⟨0, 0, ?_⟩
      have hbound := boundBytes_of_lookup hlive
      have hhome : live.pool = 0 := h.home_of_lookup hlive
      have hsame : 0 + s.boundBytes id = b.reservedBytes + 0 := by
        rw [hbound, Nat.zero_add]
        exact hbytes.symm
      have hsession : s.bindBuilder id ⟨live.pool, live.kind, b⟩ = { s with
          pools := [.drawn limit (s.heldBytes + 0 - 0)]
          builders := bind id ⟨live.pool, live.kind, b⟩ s.builders } := by
        rw [bindBuilder, Nat.add_zero, Nat.sub_zero, ← h.pools]
      rw [hsession]
      cases answer with
      | error e =>
          exact accounted_bind hlimit h id ⟨live.pool, live.kind, b⟩ hhome 0 0 h.bounded
            (Nat.zero_le _) hsame fun _ _ => ⟨rfl, .inl rfl⟩
      | ok column =>
          exact accounted_bind hlimit h id ⟨live.pool, live.kind, b⟩ hhome 0 0 h.bounded
            (Nat.zero_le _) hsame fun _ _ => ⟨rfl, .inl rfl⟩

theorem accounted_closeBuilder (hlimit : limit ≤ Size.limit) (h : Balanced limit s)
    (id : String) : ∃ granted returned,
      Accounted limit s (.closeBuilder id) granted returned (s.step (.closeBuilder id)) := by
  rw [step, onBuilder]
  cases hlive : s.builders.lookup id with
  | none => exact ⟨0, 0, accounted_self hlimit h _ _⟩
  | some live =>
      have hbytes := h.bytesOf_unbind id
      refine ⟨0, s.boundBytes id, ?_⟩
      simp only [closeBuilder_of_balanced hlimit h]
      have hheld : s.heldBytes + 0 - s.boundBytes id = bytesOf (unbind id s.builders) := by omega
      refine ⟨h.unbind id, ?_, nofun⟩
      change Pool.Moves limit _ 0 (s.boundBytes id) (.drawn limit (bytesOf (unbind id s.builders)))
      rw [← hheld]
      exact Pool.moves_drawn hlimit h.bounded (by omega)

/-- A step on the builders keeps the session balanced and moves only what is counted. -/
theorem exists_accounted (hlimit : limit ≤ Size.limit) (h : Balanced limit s) (step : Step F)
    (hstep : step.OnBuilders) :
    ∃ granted returned, Accounted limit s step granted returned (s.step step) := by
  cases step with
  | openBuilder id pool kind capacity => exact accounted_openBuilder hlimit h id pool kind capacity
  | extend id values => exact accounted_extend hlimit h id values
  | finish id => exact accounted_finish hlimit h id
  | describe id =>
      rw [Session.step, onBuilder]
      cases s.builders.lookup id with
      | none => exact ⟨0, 0, accounted_self hlimit h _ _⟩
      | some live => exact ⟨0, 0, accounted_self hlimit h _ _⟩
  | closeBuilder id => exact accounted_closeBuilder hlimit h id
  | encode | reserve | release | describePool => exact hstep.elim
  | openReservation | growReservation | closeReservation => exact hstep.elim

/-! ## Runs -/

/-- The sessions that one bounded pool and any steps on builders lead to. -/
inductive Reached (limit : Nat) : Session F → Prop
  | start : Reached limit { pools := [.bounded limit] }
  | step {s : Session F} (hs : Reached limit s) (next : Step F) (hnext : next.OnBuilders) :
      Reached limit (s.step next).2

/-- Every session that is reached is balanced. -/
theorem balanced_of_reached (hlimit : limit ≤ Size.limit) (hs : Reached limit s) :
    Balanced limit s := by
  induction hs with
  | start => exact ⟨rfl, Nat.zero_le _, .nil, nofun, rfl⟩
  | step hs next hnext ih =>
      obtain ⟨granted, returned, hstep⟩ := exists_accounted hlimit ih next hnext
      exact hstep.balanced

theorem closeBuilder_balanced (hlimit : limit ≤ Size.limit) (h : Balanced limit s) (id : String) :
    Balanced limit (s.closeBuilder id) ∧ (s.closeBuilder id).builders = unbind id s.builders := by
  rw [closeBuilder_of_balanced hlimit h]
  exact ⟨h.unbind id, rfl⟩

theorem closeBuilders_balanced (hlimit : limit ≤ Size.limit)
    {entries : List (String × LiveBuilder F)} (h : Balanced limit s)
    (hentries : s.builders = entries) :
    Balanced limit (entries.foldl (fun s entry => s.closeBuilder entry.1) s) ∧
      (entries.foldl (fun s entry => s.closeBuilder entry.1) s).builders = [] := by
  induction entries generalizing s with
  | nil => exact ⟨h, hentries⟩
  | cons entry entries ih =>
      obtain ⟨id, live⟩ := entry
      obtain ⟨hclosed, hbuilders⟩ := closeBuilder_balanced hlimit h id
      have hids := h.ids
      rw [hentries, List.map_cons, List.nodup_cons] at hids
      -- No name occurs twice, so the builders left are those of the other entries.
      refine ih hclosed ?_
      rw [hbuilders, hentries, unbind_cons_self hids.1]

/-- Without builders nothing is held. -/
theorem pools_of_no_builders (h : Balanced limit s) (hnone : s.builders = []) :
    s.pools = [.bounded limit] := by
  rw [h.pools, heldBytes, hnone]
  rfl

/-- Closing everything returns everything. -/
theorem pools_closeAll (hlimit : limit ≤ Size.limit) (h : Balanced limit s) :
    s.closeAll.pools = [.bounded limit] := by
  obtain ⟨hclosed, hnone⟩ := closeBuilders_balanced hlimit h rfl
  rw [closeAll, hclosed.reservations]
  exact pools_of_no_builders hclosed hnone

/-- One bounded pool and any number of builders of any kinds, opened, filled, finished and
closed in any order: after every step the pool counts exactly what the builders hold, which
is no more than its limit, and no step takes the count out of its range. A step that fails
leaves the count as it is, except for what its own fill was granted before a value of it was
refused. When the last builder is closed, nothing is held. -/
theorem pools_of_reached (hlimit : limit ≤ Size.limit) (hs : Reached limit s) :
    (∃ p, s.pools = [p] ∧ p.limit = some limit ∧ p.reserved = s.heldBytes ∧
      s.heldBytes ≤ limit ∧ p.available = limit - s.heldBytes ∧
      ∀ next : Step F, next.OnBuilders → ∃ q granted returned,
        (s.step next).2.pools = [q] ∧ Pool.Moves limit p granted returned q ∧
        ∀ e, (s.step next).1 = .failed e →
          returned = 0 ∧ (granted = 0 ∨ GrantedThenRefused s p next granted)) ∧
    (s.builders = [] → s.pools = [.bounded limit]) ∧
    s.closeAll.pools = [.bounded limit] := by
  have h := balanced_of_reached hlimit hs
  refine ⟨⟨_, h.pools, rfl, rfl, h.bounded, rfl, ?_⟩, pools_of_no_builders h,
    pools_closeAll hlimit h⟩
  intro next hnext
  obtain ⟨granted, returned, hstep⟩ := exists_accounted hlimit h next hnext
  exact ⟨_, granted, returned, hstep.balanced.pools, hstep.moves, hstep.failed⟩

/-- The codecs of all kinds. -/
def kinds : CodecFamily := ⟨Kind, Kind.Value, Kind.codec⟩

/-- Two vectors are filled in, and of three numbers the second one is refused. What was
granted for the three stays with the builder until it is closed. -/
theorem pools_of_refused_number :
    ∃ s : Session kinds, Reached 4096 s ∧
      (∃ p, s.pools = [p] ∧ p.reserved = (192 + 2 * 12) + (24 + 3 * 8) ∧ p.available = 3832) ∧
      s.closeAll.pools = [.bounded 4096] := by
  have hvectors : Reached 4096 _ :=
    (Reached.start.step (.openBuilder "vectors" 0 Kind.vec3D 0) trivial).step
      (F := kinds) (.extend "vectors" fun
        | Kind.vec3D => [some Vec3D.one, none]
        | _ => []) trivial
  have hnumbers := (hvectors.step (.openBuilder "numbers" 0 Kind.faulty 1) trivial).step
    (.extend "numbers" fun
      | Kind.faulty => [some ⟨1⟩, some ⟨-2⟩, some ⟨3⟩]
      | _ => []) trivial
  obtain ⟨⟨p, hp, -, hreserved, -, havailable, -⟩, -, hclosed⟩ :=
    pools_of_reached (by decide) hnumbers
  exact ⟨_, hnumbers, ⟨p, hp, hreserved, havailable⟩, hclosed⟩

end Session

end SpatialColumns
