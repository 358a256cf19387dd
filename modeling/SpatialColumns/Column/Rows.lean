import SpatialColumns.Column.Cast
/-! # Reading a nested column row by row

A column may claim more rows than it has validity bits, or than its children have
slots for. So rows are read in order, and none is looked at after the first that
cannot be read. -/

namespace SpatialColumns.Column

/-- The rows that are already read and `count` more, from `start` on. -/
def readFrom {α : Type} (read : Nat → Except DecodeError α) (count start : Nat)
    (rows : Array α) : Except DecodeError (List α) :=
  match count with
  | 0 => .ok rows.toList
  | count + 1 => do readFrom read count (start + 1) (rows.push (← read start))

/-- The rows of a nested column, where `read` is told whether a row is present
and where it stands. -/
def readRows {α : Type} (length : Nat) (validity : Option (List Bool))
    (read : Bool → Nat → Except DecodeError α) : Except DecodeError (List α) :=
  match validity with
  | none => readFrom (read true) length 0 #[]
  | some bits =>
    let bits := bits.toArray
    readFrom (fun row => do read (← itemAt bits row) row) length 0 #[]

theorem readFrom_eq {α : Type} (read : Nat → Except DecodeError α) (count start : Nat)
    (rows : Array α) :
    readFrom read count start rows =
      ((List.range' start count).mapM read).map (rows.toList ++ ·) := by
  induction count generalizing start rows with
  | zero => simp [readFrom, Except.map, pure, Except.pure]
  | succ count ih =>
    simp only [readFrom, List.range'_succ, List.mapM_cons, bind, Except.bind]
    cases read start with
    | error e => rfl
    | ok row =>
      simp only [ih]
      cases (List.range' (start + 1) count).mapM read with
      | error e => rfl
      | ok rest => simp [Except.map, pure, Except.pure]

/-- From the first row on, with none read yet, all rows are read in order. -/
theorem readFrom_zero {α : Type} (read : Nat → Except DecodeError α) (count : Nat) :
    readFrom read count 0 #[] = (List.range' 0 count).mapM read := by
  rw [readFrom_eq]
  cases (List.range' 0 count).mapM read <;> simp [Except.map]

theorem mapM_range'_eq_zipIdx {α : Type} {read : Nat → Except DecodeError α}
    {readBit : Bool → Nat → Except DecodeError α} (bits : List Bool) (start : Nat)
    (h : ∀ row, (hrow : row < bits.length) → read (start + row) = readBit bits[row] (start + row)) :
    (List.range' start bits.length).mapM read =
      (bits.zipIdx start).mapM fun row => readBit row.1 row.2 := by
  induction bits generalizing start with
  | nil => rfl
  | cons bit bits ih =>
    have hhead : read start = readBit bit start := h 0 (Nat.zero_lt_succ _)
    have htail := ih (start + 1) fun row hrow => by
      have := h (row + 1) (by simpa using hrow)
      rw [Nat.add_assoc, Nat.add_comm 1 row]
      simpa using this
    simp [List.range'_succ, List.mapM_cons, hhead, htail]

/-- Every row is read from its own bit, if there are as many bits as rows. -/
theorem readRows_eq {α : Type} {length : Nat} {validity : Option (List Bool)}
    (h : ∀ bits, validity = some bits → bits.length = length)
    (read : Bool → Nat → Except DecodeError α) :
    readRows length validity read =
      (presence length validity).zipIdx.mapM fun row => read row.1 row.2 := by
  cases validity with
  | none =>
    have hreplicate : (List.range' 0 (List.replicate length true).length).mapM (read true) =
        (List.replicate length true).zipIdx.mapM fun row => read row.1 row.2 :=
      mapM_range'_eq_zipIdx _ 0 (by simp)
    rw [readRows, readFrom_zero, presence_none, ← hreplicate, List.length_replicate]
  | some bits =>
    obtain rfl := h bits rfl
    rw [readRows, readFrom_zero, presence_some]
    apply mapM_range'_eq_zipIdx
    intro row hrow
    simp [itemAt, hrow, bind, Except.bind]

end SpatialColumns.Column
