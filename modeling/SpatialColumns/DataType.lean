import SpatialColumns.Scalar
/-! # Datatypes

A datatype is the kind of a column: a scalar kind, or a layout built from
named fields. Two datatypes are the same only if names, nullability and
metadata of all their fields agree as well, so equality is decided field by
field. -/

namespace SpatialColumns

/-- Whether the entries of a union carry offsets into their arms (dense) or
every arm has a slot for every entry (sparse). -/
inductive UnionMode where
  | dense
  | sparse
  deriving DecidableEq, Repr

mutual

inductive DataType where
  | null
  | scalar (kind : Scalar)
  | fixedSizeList (item : Field) (size : Int32)
  | list (item : Field)
  | struct (fields : List Field)
  | union (arms : List (Int8 × Field)) (mode : UnionMode)

/-- A named child of a datatype, or a named column of a schema. The metadata
is sorted by key. -/
structure Field where
  name : String
  type : DataType
  nullable : Bool
  metadata : List (String × String)

end

namespace Field

/-- A field without metadata. -/
def plain (name : String) (type : DataType) (nullable : Bool) : Field :=
  ⟨name, type, nullable, []⟩

/-- A field whose column has no nulls. -/
def required (name : String) (type : DataType) : Field := plain name type false

/-- A field whose column may have nulls. -/
def optional (name : String) (type : DataType) : Field := plain name type true

/-- The same field with the given metadata, sorted by key. A later entry
replaces an earlier one of the same key. -/
def withMetadata (f : Field) (entries : List (String × String)) : Field :=
  let insert (sorted : List (String × String)) (e : String × String) :=
    sorted.filter (·.1 < e.1) ++ e :: sorted.filter (e.1 < ·.1)
  { f with metadata := entries.foldl insert [] }

end Field

/-! ## Equality -/

mutual

/-- Whether two datatypes agree. -/
def DataType.agrees (a b : DataType) : Bool :=
  match a with
  | .null => match b with
    | .null => true
    | _ => false
  | .scalar s => match b with
    | .scalar t => s == t
    | _ => false
  | .fixedSizeList f m => match b with
    | .fixedSizeList g n => f.agrees g && m == n
    | _ => false
  | .list f => match b with
    | .list g => f.agrees g
    | _ => false
  | .struct fs => match b with
    | .struct gs => Field.allAgree fs gs
    | _ => false
  | .union fs m => match b with
    | .union gs n => Field.armsAgree fs gs && m == n
    | _ => false
  termination_by structural a

def Field.agrees (a b : Field) : Bool :=
  match a with
  | ⟨n, t, u, m⟩ => match b with
    | ⟨n', t', u', m'⟩ => n == n' && t.agrees t' && u == u' && m == m'
  termination_by structural a

def Field.allAgree (a b : List Field) : Bool :=
  match a with
  | [] => b.isEmpty
  | f :: fs => match b with
    | [] => false
    | g :: gs => f.agrees g && Field.allAgree fs gs
  termination_by structural a

def Field.armsAgree (a b : List (Int8 × Field)) : Bool :=
  match a with
  | [] => b.isEmpty
  | (i, f) :: fs => match b with
    | [] => false
    | (j, g) :: gs => i == j && f.agrees g && Field.armsAgree fs gs
  termination_by structural a

end

mutual

theorem DataType.agrees_iff (a b : DataType) : a.agrees b = true ↔ a = b := by
  match a with
  | .null => cases b <;> simp [DataType.agrees]
  | .scalar s => cases b <;> simp [DataType.agrees]
  | .fixedSizeList f m => cases b <;> simp [DataType.agrees, Field.agrees_iff f]
  | .list f => cases b <;> simp [DataType.agrees, Field.agrees_iff f]
  | .struct fs => cases b <;> simp [DataType.agrees, Field.allAgree_iff fs]
  | .union fs m => cases b <;> simp [DataType.agrees, Field.armsAgree_iff fs]
  termination_by structural a

theorem Field.agrees_iff (a b : Field) : a.agrees b = true ↔ a = b := by
  match a with
  | ⟨n, t, u, m⟩ =>
    obtain ⟨n', t', u', m'⟩ := b
    simp [Field.agrees, DataType.agrees_iff t, and_assoc]
  termination_by structural a

theorem Field.allAgree_iff (a b : List Field) : Field.allAgree a b = true ↔ a = b := by
  match a with
  | [] => cases b <;> simp [Field.allAgree]
  | f :: fs =>
    cases b <;> simp [Field.allAgree, Field.agrees_iff f, Field.allAgree_iff fs]
  termination_by structural a

theorem Field.armsAgree_iff (a b : List (Int8 × Field)) :
    Field.armsAgree a b = true ↔ a = b := by
  match a with
  | [] => cases b <;> simp [Field.armsAgree]
  | (i, f) :: fs =>
    rcases b with _ | ⟨⟨j, g⟩, gs⟩ <;>
      simp [Field.armsAgree, Field.agrees_iff f, Field.armsAgree_iff fs]
  termination_by structural a

end

instance : DecidableEq DataType := fun a b => decidable_of_iff _ (DataType.agrees_iff a b)

instance : DecidableEq Field := fun a b => decidable_of_iff _ (Field.agrees_iff a b)

/-! ## Unions -/

mutual

/-- Whether all unions in a datatype have an arm. -/
def DataType.isArmed (t : DataType) : Bool :=
  match t with
  | .null => true
  | .scalar _ => true
  | .fixedSizeList item _ => item.isArmed
  | .list item => item.isArmed
  | .struct fields => Field.areArmed fields
  | .union arms _ => !arms.isEmpty && Field.armsAreArmed arms
  termination_by structural t

def Field.isArmed (f : Field) : Bool :=
  match f with
  | ⟨_, type, _, _⟩ => type.isArmed
  termination_by structural f

def Field.areArmed (fs : List Field) : Bool :=
  match fs with
  | [] => true
  | f :: fs => f.isArmed && Field.areArmed fs
  termination_by structural fs

def Field.armsAreArmed (arms : List (Int8 × Field)) : Bool :=
  match arms with
  | [] => true
  | (_, f) :: arms => f.isArmed && Field.armsAreArmed arms
  termination_by structural arms

end

namespace DataType

/-- A list of a fixed number of items without nulls. The size is stored in 32
bits, so a larger count wraps. -/
def listOf (type : Primitive) (size : Nat) : DataType :=
  .fixedSizeList (.required "item" (.scalar (.primitive type))) (Int32.ofNat size)

/-- A union of the given arms, if their type ids are at least zero and tell them apart. -/
def union? (arms : List (Int8 × Field)) (mode : UnionMode) : Option DataType :=
  let typeIds := arms.map (·.1)
  if typeIds.all (0 ≤ ·) ∧ typeIds.Nodup then some (.union arms mode) else none

end DataType

end SpatialColumns
