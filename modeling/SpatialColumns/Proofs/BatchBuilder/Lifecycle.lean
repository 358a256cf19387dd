import Mathlib.Algebra.Order.Ring.Nat
import SpatialColumns.Probe
import SpatialColumns.Proofs.BatchBuilder.Reservation

/-!
# The lifecycle of a batch builder

As long as no call fails, the state of a builder only says whether it has taken
a value. The first call that fails poisons it, and leaves in it exactly the
values that came before the one that was refused. A poisoned builder answers
every call in the same way and changes no more, and so does a finished one.
-/

namespace SpatialColumns

variable {α : Type} {c : Codec α}

/-- A codec whose builders start empty and grow by one with every value that is taken. -/
structure Codec.Grows (c : Codec α) : Prop where
  withCapacity (capacity : Nat) : c.length (c.withCapacity capacity) = 0
  append_ok {column next : c.Builder} {value : Option α}
    (happend : c.append column value = (.ok (), next)) : c.length next = c.length column + 1

/-- A codec whose builders grow by one with every value that is taken, and by
none with one that is refused. -/
structure Codec.Counts (c : Codec α) : Prop where
  withCapacity (capacity : Nat) : c.length (c.withCapacity capacity) = 0
  append_ok {column next : c.Builder} {value : Option α}
    (happend : c.append column value = (.ok (), next)) : c.length next = c.length column + 1
  append_error {column next : c.Builder} {value : Option α} {e : Error}
    (happend : c.append column value = (.error e, next)) : c.length next = c.length column

theorem Codec.Counts.grows (hc : c.Counts) : c.Grows := ⟨hc.withCapacity, hc.append_ok⟩

/-- A number is taken or refused before the builder grows. -/
theorem Probe.Faulty.counts_codec : codec.Counts where
  withCapacity _ := rfl
  append_ok {column next value} happend := by
    cases hrefusal : refusal value with
    | some e =>
        simp only [codec, hrefusal] at happend
        cases happend
    | none =>
        simp only [codec, hrefusal] at happend
        cases happend
        exact ScalarBuilder.length_push column _
  append_error {column next value e} happend := by
    cases hrefusal : refusal value with
    | some e =>
        simp only [codec, hrefusal] at happend
        cases happend
        rfl
    | none =>
        simp only [codec, hrefusal] at happend
        cases happend

/-- A call on a builder. -/
inductive Call (α : Type) where
  | fill (batch : Batch α)
  | finish

namespace Call

/-- The number of values that a call passes. -/
def count : Call α → Nat
  | fill batch => batch.values.length
  | finish => 0

/-- The name that a call goes by in errors. -/
def operation : Call α → String
  | fill _ => "fill"
  | finish => "finish"

end Call

namespace BatchBuilder

/-! ## Runs -/

/-- A call and its answer, with a column if it finishes one. -/
def call (b : BatchBuilder c) (p : Pool) :
    Call α → Except Error (Option Column) × BatchBuilder c × Pool
  | .fill batch =>
    let (result, b, p) := b.fill p batch
    (result.map fun _ => none, b, p)
  | .finish =>
    let (result, b) := b.finish
    (result.map some, b, p)

/-- The answers to a sequence of calls and the builder after them. Between calls
others may draw on the pool, so each call has a pool of its own. -/
def run (b : BatchBuilder c) :
    List (Pool × Call α) → List (Except Error (Option Column)) × BatchBuilder c
  | [] => ([], b)
  | (p, next) :: calls =>
    let (answer, b, _) := b.call p next
    let (answers, b) := b.run calls
    (answer :: answers, b)

theorem run_append (b : BatchBuilder c) (calls more : List (Pool × Call α)) :
    b.run (calls ++ more) =
      ((b.run calls).1 ++ ((b.run calls).2.run more).1, ((b.run calls).2.run more).2) := by
  induction calls generalizing b with
  | nil => rfl
  | cons call calls ih =>
      simp only [List.cons_append, run, ih]

/-! ## Values that are taken -/

theorem length_of_appendAll (hc : c.Grows) {column last : c.Builder}
    {values : List (Option α)} (happend : appendAll c column values = (.ok (), last)) :
    c.length last = c.length column + values.length := by
  induction values generalizing column with
  | nil =>
      cases happend
      rfl
  | cons value values ih =>
      rw [appendAll] at happend
      rcases hvalue : c.append column value with ⟨_ | _, next⟩
      · rw [hvalue] at happend
        cases happend
      · rw [hvalue] at happend
        rw [ih happend, hc.append_ok hvalue, List.length_cons, Nat.add_assoc, Nat.add_comm 1]

/-- If a batch is not taken, some value of it is refused, and those before it are taken. -/
theorem refused_of_appendAll (hc : c.Counts) {column last : c.Builder}
    {values : List (Option α)} {e : Error}
    (happend : appendAll c column values = (.error e, last)) :
    ∃ k mid, ∃ hk : k < values.length,
      appendAll c column (values.take k) = (.ok (), mid) ∧
      c.append mid values[k] = (.error e, last) ∧
      c.length last = c.length column + k := by
  obtain ⟨k, mid, hk, htaken, hrefused⟩ := appendAll_eq_error_iff.mp happend
  refine ⟨k, mid, hk, htaken, hrefused, ?_⟩
  rw [hc.append_error hrefused, length_of_appendAll hc.grows htaken,
    List.length_take_of_le (Nat.le_of_lt hk)]

/-! ## Unbroken builders -/

/-- No call on the builder has failed, and it is not finished. -/
def Unbroken (b : BatchBuilder c) : Prop := b.state = .ofLength b.length

theorem unbroken_of_openIn (hc : c.Grows) {p q : Pool} {capacity : Nat} {b : BatchBuilder c}
    (hopen : openIn c p capacity = .ok (b, q)) : b.Unbroken ∧ b.length = 0 := by
  rw [openIn_eq] at hopen
  cases hraise : p.raise 0 (bytesFor c capacity) with
  | error e =>
      rw [hraise] at hopen
      cases hopen
  | ok r =>
      rw [hraise] at hopen
      cases hopen
      have hlength : (fresh c capacity).length = 0 := hc.withCapacity _
      exact ⟨by rw [Unbroken, hlength]; rfl, hlength⟩

theorem Unbroken.usable {b : BatchBuilder c} (hb : b.Unbroken) (operation : String) :
    b.usable operation = .ok () := by
  rw [BatchBuilder.usable, hb, BuilderState.ofLength]
  by_cases hlength : b.length = 0
  · rw [if_pos hlength]
  · rw [if_neg hlength]

/-- A builder that takes a whole batch stays unbroken. -/
theorem unbroken_of_taken (hc : c.Grows) {b larger : BatchBuilder c} (hb : b.Unbroken)
    {p q : Pool} {values : List (Option α)} {last : c.Builder}
    (hreserve : b.reserve p values.length = .ok (larger, q))
    (happend : appendAll c larger.column values = (.ok (), last)) :
    let left := { larger with
      column := last, state := if c.length last = 0 then larger.state else .filling }
    left.Unbroken ∧ left.length = b.length + values.length := by
  obtain ⟨hcolumn, hstate⟩ := column_of_reserve hreserve
  rw [hcolumn] at happend
  have hlength : c.length last = b.length + values.length := length_of_appendAll hc happend
  refine ⟨?_, hlength⟩
  change (if c.length last = 0 then larger.state else .filling) =
    BuilderState.ofLength (c.length last)
  rw [BuilderState.ofLength, hstate, hb]
  by_cases hnone : c.length last = 0
  · have hempty : b.length = 0 := by omega
    rw [if_pos hnone, if_pos hnone, BuilderState.ofLength, if_pos hempty]
  · rw [if_neg hnone, if_neg hnone]

/-- Why a call on an unbroken builder fails, and what it leaves behind. -/
inductive Failure (b : BatchBuilder c) (p : Pool) :
    Call α → Error → BatchBuilder c → Pool → Prop
  /-- The pool refuses the memory for a batch; nothing of it is taken. -/
  | reservation {batch : Batch α} {source : Error} {left : BatchBuilder c}
      (hreserve : b.reserve p batch.values.length = .error source)
      (hlength : left.length = b.length) (hbytes : left.reservedBytes = b.reservedBytes) :
      Failure b p (.fill batch) source left p
  /-- A value of a batch is refused; those before it are taken. -/
  | value {batch : Batch α} {source : Error} {left : BatchBuilder c} {q : Pool} {k : Nat}
      {mid : c.Builder} (hk : k < batch.values.length)
      (htaken : appendAll c b.column (batch.values.take k) = (.ok (), mid))
      (hrefused : c.append mid batch.values[k] = (.error source, left.column))
      (hlength : left.length = b.length + k) :
      Failure b p (.fill batch) source left q
  /-- The values do not make up a column. -/
  | column {e : ColumnError} {left : BatchBuilder c}
      (hfinish : c.finish b.column = (.error e, left.column)) :
      Failure b p .finish (.column "finish" e) left p

/-- What a call on an unbroken builder comes to. -/
inductive Outcome (b : BatchBuilder c) (p : Pool) :
    Call α → Except Error (Option Column) × BatchBuilder c × Pool → Prop
  | filled {batch : Batch α} {left : BatchBuilder c} {q : Pool} (hunbroken : left.Unbroken)
      (hlength : left.length = b.length + batch.values.length) :
      Outcome b p (.fill batch) (.ok none, left, q)
  | finished {column : Column} {left : BatchBuilder c} (hstate : left.state = .finalized) :
      Outcome b p .finish (.ok (some column), left, p)
  | failed {next : Call α} {source : Error} {left : BatchBuilder c} {q : Pool}
      (hstate : left.state = .poisoned) (hfailure : Failure b p next source left q) :
      Outcome b p next (.error (.context c.name source), left, q)

theorem fill_outcome (hc : c.Counts) {b : BatchBuilder c} (hb : b.Unbroken) (p : Pool)
    (batch : Batch α) : Outcome b p (.fill batch) (b.call p (.fill batch)) := by
  have hextension := extendOpt_extension b p batch.values
  rw [call, fill_eq_extendOpt]
  generalize b.extendOpt p batch.values = result at hextension ⊢
  cases hextension with
  | unusable hunusable =>
      rw [hb.usable] at hunusable
      cases hunusable
  | refused _ hreserve => exact .failed rfl (.reservation hreserve rfl rfl)
  | stopped _ hreserve happend =>
      rw [(column_of_reserve hreserve).1] at happend
      obtain ⟨k, mid, hk, htaken, hrefused, hlength⟩ := refused_of_appendAll hc happend
      exact .failed rfl (.value hk htaken hrefused hlength)
  | taken _ hreserve happend =>
      obtain ⟨hunbroken, hlength⟩ := unbroken_of_taken hc.grows hb hreserve happend
      exact .filled hunbroken hlength

theorem finish_outcome {b : BatchBuilder c} (hb : b.Unbroken) (p : Pool) :
    Outcome b p .finish (b.call p .finish) := by
  have hsealing := finish_sealing b
  rw [call]
  generalize b.finish = result at hsealing ⊢
  cases hsealing with
  | unusable hunusable =>
      rw [hb.usable] at hunusable
      cases hunusable
  | failed _ hfinish => exact .failed rfl (.column hfinish)
  | finished _ hfinish => exact .finished rfl

theorem call_outcome (hc : c.Counts) {b : BatchBuilder c} (hb : b.Unbroken) (p : Pool)
    (next : Call α) : Outcome b p next (b.call p next) := by
  cases next with
  | fill batch => exact fill_outcome hc hb p batch
  | finish => exact finish_outcome hb p

/-- Calls that all fill leave the builder unbroken, with all of their values. -/
theorem run_unbroken (hc : c.Counts) {b : BatchBuilder c} (hb : b.Unbroken)
    {calls : List (Pool × Call α)} (hfilled : ∀ answer ∈ (b.run calls).1, answer = .ok none) :
    (b.run calls).2.Unbroken ∧
      (b.run calls).2.length = b.length + (calls.map (·.2.count)).sum := by
  induction calls generalizing b with
  | nil => exact ⟨hb, rfl⟩
  | cons entry calls ih =>
      obtain ⟨p, next⟩ := entry
      have houtcome := call_outcome hc hb p next
      rw [run] at hfilled ⊢
      generalize b.call p next = result at houtcome hfilled ⊢
      -- Of the three outcomes only a filled batch answers without a column.
      have hanswer : result.1 = .ok none := hfilled _ List.mem_cons_self
      cases houtcome with
      | filled hunbroken hlength =>
          obtain ⟨hlast, htotal⟩ := ih hunbroken fun answer hmem =>
            hfilled answer (List.mem_cons_of_mem _ hmem)
          refine ⟨hlast, ?_⟩
          rw [htotal, hlength, List.map_cons, List.sum_cons, Call.count, Nat.add_assoc]
      | finished => cases hanswer
      | failed => cases hanswer

/-! ## Builders that are of no further use -/

theorem call_of_unusable {b : BatchBuilder c} {next : Call α} {e : Error}
    (hb : b.usable next.operation = .error e) (p : Pool) :
    b.call p next = (.error e, b, p) := by
  cases next with
  | fill batch =>
      have hextend : b.extendOpt p batch.values = (.error e, b, p) := by
        rw [Call.operation] at hb
        rw [extendOpt, hb]
      rw [call, fill_eq_extendOpt, hextend]
      rfl
  | finish =>
      have hfinish : b.finish = (.error e, b) := by
        rw [Call.operation] at hb
        rw [BatchBuilder.finish, hb]
      rw [call, hfinish]
      rfl

/-- A builder that refuses every call stays as it is. -/
theorem run_of_unusable {b : BatchBuilder c} {refusal : Call α → Error}
    (hb : ∀ next : Call α, b.usable next.operation = .error (refusal next))
    (calls : List (Pool × Call α)) :
    b.run calls = (calls.map fun entry => .error (refusal entry.2), b) := by
  induction calls with
  | nil => rfl
  | cons entry calls ih =>
      obtain ⟨p, next⟩ := entry
      rw [run, call_of_unusable (hb next)]
      simp only [ih, List.map_cons]

theorem run_poisoned {b : BatchBuilder c} (hb : b.state = .poisoned)
    (calls : List (Pool × Call α)) :
    b.run calls = (calls.map fun _ => .error (.poisoned c.name), b) :=
  run_of_unusable (fun next => by rw [BatchBuilder.usable, hb]) calls

theorem run_finalized {b : BatchBuilder c} (hb : b.state = .finalized)
    (calls : List (Pool × Call α)) :
    b.run calls = (calls.map fun entry => .error (.finalized entry.2.operation c.name), b) :=
  run_of_unusable (fun next => by rw [BatchBuilder.usable, hb]) calls

/-! ## All runs -/

/-- The lifecycle of a builder. While all calls fill, it is empty or filling, by whether it
holds a value, and holds all values passed. The first call that fails poisons it under one
added context, and no later call does anything but say so. A call that finishes it is the
last one defined. -/
theorem run_of_openIn (hc : c.Counts) {p₀ q₀ : Pool} {capacity : Nat} {b : BatchBuilder c}
    (hopen : openIn c p₀ capacity = .ok (b, q₀)) (before : List (Pool × Call α))
    (hfilled : ∀ answer ∈ (b.run before).1, answer = .ok none) :
    (b.run before).2.state = (if (b.run before).2.length = 0 then .empty else .filling) ∧
    (b.run before).2.length = (before.map (·.2.count)).sum ∧
    (∀ p next after e left q, (b.run before).2.call p next = (.error e, left, q) →
      left.state = .poisoned ∧
      (∃ source, e = .context c.name source ∧ Failure (b.run before).2 p next source left q) ∧
      b.run (before ++ (p, next) :: after) =
        ((b.run before).1 ++ .error e :: after.map fun _ => .error (.poisoned c.name), left)) ∧
    ∀ p next after column left q, (b.run before).2.call p next = (.ok (some column), left, q) →
      left.state = .finalized ∧
      b.run (before ++ (p, next) :: after) =
        ((b.run before).1 ++ .ok (some column) ::
          after.map fun entry => .error (.finalized entry.2.operation c.name), left) := by
  obtain ⟨hb, hlength⟩ := unbroken_of_openIn hc.grows hopen
  obtain ⟨hreached, htotal⟩ := run_unbroken hc hb hfilled
  refine ⟨hreached, ?_, ?_, ?_⟩
  · rw [htotal, hlength, Nat.zero_add]
  · intro p next after e left q hcall
    have houtcome := call_outcome hc hreached p next
    rw [hcall] at houtcome
    cases houtcome with
    | failed hstate hfailure =>
        refine ⟨hstate, ⟨_, rfl, hfailure⟩, ?_⟩
        rw [run_append, run, hcall]
        simp only [run_poisoned hstate]
  · intro p next after column left q hcall
    have houtcome := call_outcome hc hreached p next
    rw [hcall] at houtcome
    cases houtcome with
    | finished hstate =>
        refine ⟨hstate, ?_⟩
        rw [run_append, run, hcall]
        simp only [run_finalized hstate]

end BatchBuilder

namespace Probe.Faulty

open BatchBuilder in
/-- Two numbers are taken, then two more until a negative one is refused. -/
theorem run_negative :
    ∃ b q left, openIn codec (.bounded 1000) 0 = .ok (b, q) ∧
      b.run [(q, .fill (.present [⟨1⟩, ⟨2⟩])),
          (.bounded 500, .fill (.optional [some ⟨3⟩, none, some ⟨-4⟩, some ⟨5⟩])),
          (q, .finish), (q, .fill (.present []))] =
        ([.ok none,
          .error (.context "test.Faulty" (.invalidInput (.reported "faulty -4"))),
          .error (.poisoned "test.Faulty"), .error (.poisoned "test.Faulty")], left) ∧
      left.state = .poisoned ∧ left.length = 4 := by
  have hopen : openIn codec (.bounded 1000) 0 = .ok (fresh codec 0, ⟨some 1000, 24⟩) := rfl
  have hlifecycle := run_of_openIn counts_codec hopen
    [(⟨some 1000, 24⟩, .fill (.present [⟨1⟩, ⟨2⟩]))]
    fun answer hmem => List.mem_singleton.mp hmem
  obtain ⟨-, -, hfail, -⟩ := hlifecycle
  have hcall := hfail (.bounded 500) (.fill (.optional [some ⟨3⟩, none, some ⟨-4⟩, some ⟨5⟩]))
    [(⟨some 1000, 24⟩, .finish), (⟨some 1000, 24⟩, .fill (.present []))] _ _ _ rfl
  obtain ⟨hstate, -, hrun⟩ := hcall
  refine ⟨_, _, _, hopen, hrun, hstate, rfl⟩

end Probe.Faulty

end SpatialColumns
