import SpatialColumns.Column
import SpatialColumns.Stream.Term
/-! # Columns as terms

How flat data, datatypes and columns are laid out as terms. A packing comes
with its reader and with the law that reading undoes packing. -/

namespace SpatialColumns.Stream

class Packing (α : Type) where
  pack : α → Term
  unpack : Term → Option α
  unpack_pack : ∀ a, unpack (pack a) = some a

export Packing (pack unpack)

attribute [simp] Packing.unpack_pack

section Flat

variable {α β : Type}

instance : Packing Nat where
  pack := .number
  unpack
    | .number n => some n
    | .tuple _ => none
  unpack_pack _ := rfl

/-- A packing by way of numbers. -/
@[reducible] def Packing.ofNumber (toNat : α → Nat) (ofNat : Nat → Option α)
    (law : ∀ a, ofNat (toNat a) = some a) : Packing α where
  pack a := .number (toNat a)
  unpack t := (unpack t : Option Nat).bind ofNat
  unpack_pack a := law a

theorem mapM_unpack_pack [Packing α] (items : List α) :
    (items.map pack).mapM unpack = some items := by
  induction items with
  | nil => rfl
  | cons a items ih => simp [ih]

instance [Packing α] : Packing (List α) where
  pack items := .tuple (items.map pack)
  unpack
    | .tuple ts => ts.mapM unpack
    | .number _ => none
  unpack_pack := mapM_unpack_pack

instance [Packing α] : Packing (Option α) where
  pack
    | none => .tuple []
    | some a => .tuple [pack a]
  unpack
    | .tuple [] => some none
    | .tuple [t] => (unpack t).map some
    | _ => none
  unpack_pack
    | none => rfl
    | some a => by simp

instance [Packing α] [Packing β] : Packing (α × β) where
  pack p := .tuple [pack p.1, pack p.2]
  unpack
    | .tuple [s, t] => do return (← unpack s, ← unpack t)
    | _ => none
  unpack_pack p := by simp

/-- A choice among a few cases. -/
def choice (cases : List α) (n : Nat) : Option α := cases[n]?

instance : Packing Bool :=
  .ofNumber Bool.toNat (choice [false, true]) (by intro b; cases b <;> rfl)

/-- The character with a code point, if there is one. -/
def charOfNat? (n : Nat) : Option Char :=
  if h : n.isValidChar then some (Char.ofNatAux n h) else none

instance : Packing Char :=
  .ofNumber Char.toNat charOfNat? (by
    intro c
    have h : c.toNat.isValidChar := c.valid
    rw [charOfNat?, dif_pos h]
    rfl)

instance : Packing String where
  pack s := pack s.toList
  unpack t := (unpack t : Option (List Char)).map String.ofList
  unpack_pack s := by simp

instance : Packing UInt8 :=
  .ofNumber UInt8.toNat (fun n => if n < UInt8.size then some (UInt8.ofNat n) else none) (by
    intro n
    simp [n.toNat_lt])

instance : Packing UInt32 :=
  .ofNumber UInt32.toNat (fun n => if n < UInt32.size then some (UInt32.ofNat n) else none) (by
    intro n
    simp [n.toNat_lt])

instance : Packing UInt64 :=
  .ofNumber UInt64.toNat (fun n => if n < UInt64.size then some (UInt64.ofNat n) else none) (by
    intro n
    simp [n.toNat_lt])

instance : Packing Int8 where
  pack n := pack n.toUInt8
  unpack t := (unpack t : Option UInt8).map UInt8.toInt8
  unpack_pack n := by simp

instance : Packing Int32 where
  pack n := pack n.toUInt32
  unpack t := (unpack t : Option UInt32).map UInt32.toInt32
  unpack_pack n := by simp

instance : Packing Int64 where
  pack n := pack n.toUInt64
  unpack t := (unpack t : Option UInt64).map UInt64.toInt64
  unpack_pack n := by simp

instance (width : Nat) : Packing (BitVec width) :=
  .ofNumber BitVec.toNat
    (fun n =>
      let x := BitVec.ofNat width n
      if x.toNat = n then some x else none)
    (by intro x; simp)

instance : Packing Binary32 where
  pack x := pack x.bits
  unpack t := (unpack t : Option UInt32).map Binary32.mk
  unpack_pack x := by simp

instance : Packing Binary64 where
  pack x := pack x.bits
  unpack t := (unpack t : Option UInt64).map Binary64.mk
  unpack_pack x := by simp

instance [Packing α] : Packing (Slot α) where
  pack slot := pack (slot.isValue, slot.raw)
  unpack t := (unpack t : Option (Bool × α)).map fun (isValue, raw) =>
    if isValue then .value raw else .null raw
  unpack_pack slot := by cases slot <;> simp

end Flat

/-! ## Datatypes -/

instance : Packing Primitive where
  pack
    | .other name width => .tuple [pack name, pack width]
    | type => .number (Primitive.known.idxOf type)
  unpack
    | .number n => choice Primitive.known n
    | .tuple [name, width] => return .other (← unpack name) (← unpack width)
    | _ => none
  unpack_pack type := by
    cases type with
    | other name width => simp
    | _ => rfl

instance : Packing Scalar where
  pack
    | .bool => .number 0
    | .utf8 => .number 1
    | .primitive type => .tuple [pack type]
  unpack
    | .number n => choice [.bool, .utf8] n
    | .tuple [type] => (unpack type).map .primitive
    | _ => none
  unpack_pack
    | .bool => rfl
    | .utf8 => rfl
    | .primitive type => by simp

instance : (type : Primitive) → Packing type.Native
  | .uint8 => inferInstanceAs (Packing UInt8)
  | .int8 => inferInstanceAs (Packing Int8)
  | .int32 => inferInstanceAs (Packing Int32)
  | .int64 => inferInstanceAs (Packing Int64)
  | .float32 => inferInstanceAs (Packing Binary32)
  | .float64 => inferInstanceAs (Packing Binary64)
  | .other _ width => inferInstanceAs (Packing (BitVec (8 * width)))

instance : (s : Scalar) → Packing s.Value
  | .bool => inferInstanceAs (Packing Bool)
  | .utf8 => inferInstanceAs (Packing String)
  | .primitive type => inferInstanceAs (Packing type.Native)

instance : Packing UnionMode :=
  .ofNumber
    (fun
      | .dense => 0
      | .sparse => 1)
    (choice [.dense, .sparse])
    (by intro m; cases m <;> rfl)

mutual

def packType (t : DataType) : Term :=
  match t with
  | .null => .tuple [.number 0]
  | .scalar kind => .tuple [.number 1, pack kind]
  | .fixedSizeList item size => .tuple [.number 2, packField item, pack size]
  | .list item => .tuple [.number 3, packField item]
  | .struct fields => .tuple [.number 4, .tuple (packFields fields)]
  | .union arms mode => .tuple [.number 5, .tuple (packArms arms), pack mode]
  termination_by structural t

def packField (f : Field) : Term :=
  match f with
  | ⟨name, type, nullable, metadata⟩ =>
    .tuple [pack name, packType type, pack nullable, pack metadata]
  termination_by structural f

def packFields (fs : List Field) : List Term :=
  match fs with
  | [] => []
  | f :: fs => packField f :: packFields fs
  termination_by structural fs

def packArms (arms : List (Int8 × Field)) : List Term :=
  match arms with
  | [] => []
  | (i, f) :: arms => .tuple [pack i, packField f] :: packArms arms
  termination_by structural arms

end

mutual

def unpackType (t : Term) : Option DataType :=
  match t with
  | .tuple [.number 0] => some .null
  | .tuple [.number 1, kind] => return .scalar (← unpack kind)
  | .tuple [.number 2, item, size] => return .fixedSizeList (← unpackField item) (← unpack size)
  | .tuple [.number 3, item] => return .list (← unpackField item)
  | .tuple [.number 4, .tuple fields] => return .struct (← unpackFields fields)
  | .tuple [.number 5, .tuple arms, mode] => return .union (← unpackArms arms) (← unpack mode)
  | _ => none
  termination_by structural t

def unpackField (t : Term) : Option Field :=
  match t with
  | .tuple [name, type, nullable, metadata] =>
    return ⟨← unpack name, ← unpackType type, ← unpack nullable, ← unpack metadata⟩
  | _ => none
  termination_by structural t

def unpackFields (ts : List Term) : Option (List Field) :=
  match ts with
  | [] => some []
  | t :: ts => return (← unpackField t) :: (← unpackFields ts)
  termination_by structural ts

def unpackArms (ts : List Term) : Option (List (Int8 × Field)) :=
  match ts with
  | [] => some []
  | .tuple [i, f] :: ts => return (← unpack i, ← unpackField f) :: (← unpackArms ts)
  | _ => none
  termination_by structural ts

end

mutual

theorem unpackType_packType (t : DataType) : unpackType (packType t) = some t := by
  match t with
  | .null => rfl
  | .scalar kind => simp [packType, unpackType]
  | .fixedSizeList item size => simp [packType, unpackType, unpackField_packField item]
  | .list item => simp [packType, unpackType, unpackField_packField item]
  | .struct fields => simp [packType, unpackType, unpackFields_packFields fields]
  | .union arms mode => simp [packType, unpackType, unpackArms_packArms arms]
  termination_by structural t

theorem unpackField_packField (f : Field) : unpackField (packField f) = some f := by
  match f with
  | ⟨name, type, nullable, metadata⟩ =>
    simp [packField, unpackField, unpackType_packType type]
  termination_by structural f

theorem unpackFields_packFields (fs : List Field) :
    unpackFields (packFields fs) = some fs := by
  match fs with
  | [] => rfl
  | f :: fs =>
    simp [packFields, unpackFields, unpackField_packField f, unpackFields_packFields fs]
  termination_by structural fs

theorem unpackArms_packArms (arms : List (Int8 × Field)) :
    unpackArms (packArms arms) = some arms := by
  match arms with
  | [] => rfl
  | (i, f) :: arms =>
    simp [packArms, unpackArms, unpackField_packField f, unpackArms_packArms arms]
  termination_by structural arms

end

instance : Packing DataType := ⟨packType, unpackType, unpackType_packType⟩

instance : Packing Field := ⟨packField, unpackField, unpackField_packField⟩

/-! ## Columns -/

mutual

def packColumn (c : Column) : Term :=
  match c with
  | .null length => .tuple [.number 0, pack length]
  | .scalar kind slots => .tuple [.number 1, pack kind, pack slots]
  | .fixedSizeList item size length validity child =>
    .tuple [.number 2, pack item, pack size, pack length, pack validity, packColumn child]
  | .list item offsets validity child =>
    .tuple [.number 3, pack item, pack offsets, pack validity, packColumn child]
  | .struct fields length validity children =>
    .tuple [.number 4, pack fields, pack length, pack validity, .tuple (packColumns children)]
  | .union arms mode typeIds offsets children =>
    .tuple [.number 5, pack arms, pack mode, pack typeIds, pack offsets,
      .tuple (packColumns children)]
  termination_by structural c

def packColumns (cs : List Column) : List Term :=
  match cs with
  | [] => []
  | c :: cs => packColumn c :: packColumns cs
  termination_by structural cs

end

mutual

def unpackColumn (t : Term) : Option Column :=
  match t with
  | .tuple [.number 0, length] => return .null (← unpack length)
  | .tuple [.number 1, kind, slots] => do
    let kind ← unpack kind
    return .scalar kind (← unpack slots)
  | .tuple [.number 2, item, size, length, validity, child] =>
    return .fixedSizeList (← unpack item) (← unpack size) (← unpack length) (← unpack validity)
      (← unpackColumn child)
  | .tuple [.number 3, item, offsets, validity, child] =>
    return .list (← unpack item) (← unpack offsets) (← unpack validity) (← unpackColumn child)
  | .tuple [.number 4, fields, length, validity, .tuple children] =>
    return .struct (← unpack fields) (← unpack length) (← unpack validity)
      (← unpackColumns children)
  | .tuple [.number 5, arms, mode, typeIds, offsets, .tuple children] =>
    return .union (← unpack arms) (← unpack mode) (← unpack typeIds) (← unpack offsets)
      (← unpackColumns children)
  | _ => none
  termination_by structural t

def unpackColumns (ts : List Term) : Option (List Column) :=
  match ts with
  | [] => some []
  | t :: ts => return (← unpackColumn t) :: (← unpackColumns ts)
  termination_by structural ts

end

mutual

theorem unpackColumn_packColumn (c : Column) : unpackColumn (packColumn c) = some c := by
  match c with
  | .null length => simp [packColumn, unpackColumn]
  | .scalar kind slots => simp [packColumn, unpackColumn]
  | .fixedSizeList item size length validity child =>
    simp [packColumn, unpackColumn, unpackColumn_packColumn child]
  | .list item offsets validity child =>
    simp [packColumn, unpackColumn, unpackColumn_packColumn child]
  | .struct fields length validity children =>
    simp [packColumn, unpackColumn, unpackColumns_packColumns children]
  | .union arms mode typeIds offsets children =>
    simp [packColumn, unpackColumn, unpackColumns_packColumns children]
  termination_by structural c

theorem unpackColumns_packColumns (cs : List Column) :
    unpackColumns (packColumns cs) = some cs := by
  match cs with
  | [] => rfl
  | c :: cs =>
    simp [packColumns, unpackColumns, unpackColumn_packColumn c, unpackColumns_packColumns cs]
  termination_by structural cs

end

instance : Packing Column := ⟨packColumn, unpackColumn, unpackColumn_packColumn⟩

end SpatialColumns.Stream
