import SpatialColumns.Proofs.Codec.Vector
import SpatialColumns.Proofs.Reading.Registered

/-!
# What malformed unions are refused for

The entries of a union may name arms that are not there and point at slots that are
missing or null. Decoding refuses the first entry that does, and a null marker is never
one, wherever it points. Rotations about an axis are decoded before any entry is looked
at, so one that lacks its axis comes first, even if no entry points at it.
-/

namespace SpatialColumns

variable {α β γ : Type}

namespace DecodeError

/-- The error of a decoding step that fails. -/
def failure? : Except DecodeError α → Option DecodeError
  | .error e => some e
  | .ok _ => none

@[simp] theorem failure?_map (result : Except DecodeError α) (f : α → β) :
    failure? (result.map f) = failure? result := by
  cases result <;> rfl

/-- A list fails with the error of the first item that does. -/
theorem failure?_mapM {decode : α → Except DecodeError β} {fault? : α → Option DecodeError}
    {items : List α} (h : ∀ item ∈ items, failure? (decode item) = fault? item) :
    failure? (items.mapM decode) = items.findSome? fault? := by
  induction items with
  | nil => rfl
  | cons item items ih =>
      obtain ⟨hitem, hrest⟩ := List.forall_mem_cons.mp h
      rw [List.findSome?_cons, ← hitem, ← ih hrest, List.mapM_cons]
      cases decode item with
      | error e => rfl
      | ok value => cases items.mapM decode <;> rfl

end DecodeError

open DecodeError

namespace Column

/-! ## Entries -/

/-- What is wrong with a slot of an arm. -/
def slotFault? (name : String) (arm : Column) (slot : Nat) : Option DecodeError :=
  if slot < arm.length then
    if (arm.cell slot).isNull then some (.missingData name slot) else none
  else some (.offsetOutOfBounds name slot arm.length)

/-- What is wrong with an entry of a union with two arms behind the null markers. -/
def entryFault? (name : String) (first second : Column) (typeId : Int8) (offset : Int32) :
    Option DecodeError :=
  if typeId = 0 then none
  else if typeId = 1 then slotFault? name first (slotIndex offset)
  else if typeId = 2 then slotFault? name second (slotIndex offset)
  else some (.unknownUnionArm name typeId)

/-- What is wrong with the first entry that is. -/
def entriesFault? (name : String) (first second : Column) (typeIds : List Int8)
    (offsets : List Int32) : Option DecodeError :=
  (typeIds.zip offsets).findSome? fun (typeId, offset) =>
    entryFault? name first second typeId offset

/-- What a reader takes the rows of an arm for, with an absent value for each null and for
nothing else. -/
structure ReadsArm (read : Cell → Option (Option α)) (arm : Column) (values : List (Option α)) :
    Prop where
  reads : arm.Reads read values
  absent {slot : Nat} (hslot : slot < values.length) :
    values[slot] = none ↔ (arm.cell slot).isNull = true

variable {readFirst : Cell → Option (Option α)} {readSecond : Cell → Option (Option β)}
  {firsts : List (Option α)} {seconds : List (Option β)} {firstArm secondArm : Column}

theorem Reads.toArm (hreads : firstArm.Reads readFirst firsts)
    (hlegible : firstArm.Legible readFirst)
    (hnull : ∀ {cell value}, readFirst cell = some (some value) → cell.isNull = false) :
    firstArm.ReadsArm readFirst firsts where
  reads := hreads
  absent {slot} hslot := by
    have hread := hreads.row slot hslot
    constructor
    · intro hnone
      by_contra hpresent
      obtain ⟨value, hvalue⟩ :=
        hlegible slot (hreads.length ▸ hslot) (Bool.eq_false_iff.mpr hpresent)
      rw [hread, hnone] at hvalue
      cases hvalue
    · intro hcell
      cases hvalue : firsts[slot] with
      | none => rfl
      | some value =>
          rw [hvalue] at hread
          rw [hnull hread] at hcell
          cases hcell

theorem failure?_armValue (harm : firstArm.ReadsArm readFirst firsts) (name : String) (slot : Nat) :
    failure? (armValue firsts.toArray slot name) = slotFault? name firstArm slot := by
  unfold armValue slotFault?
  rw [List.getElem?_toArray, ← harm.reads.length]
  by_cases hslot : slot < firsts.length
  · rw [List.getElem?_eq_getElem hslot, if_pos hslot]
    cases hvalue : firsts[slot] with
    | none =>
        rw [if_pos ((harm.absent hslot).mp hvalue)]
        rfl
    | some value =>
        have hpresent : ¬ (firstArm.cell slot).isNull = true := fun hnull => by
          rw [(harm.absent hslot).mpr hnull] at hvalue
          cases hvalue
        rw [if_neg hpresent]
        rfl
  · rw [List.getElem?_eq_none (Nat.le_of_not_lt hslot), if_neg hslot]
    rfl

variable {name : String} {wrapFirst : α → γ} {wrapSecond : β → γ} {typeIds : List Int8}
  {offsets : List Int32} {count : Nat} {first second : Field}

/-- A union of which the arms are decoded fails with what is wrong with its entries. -/
theorem failure?_unionValues (hfirsts : firstArm.ReadsArm readFirst firsts)
    (hseconds : secondArm.ReadsArm readSecond seconds) :
    failure? (unionValues name (unionEntries .dense typeIds offsets)
        (resolvePair name wrapFirst wrapSecond firsts.toArray seconds.toArray)) =
      entriesFault? name firstArm secondArm typeIds offsets := by
  rw [unionValues_eq_mapM, unionEntries, List.zip_map_right, List.mapM_map]
  apply failure?_mapM
  rintro ⟨typeId, offset⟩ -
  change failure? (entryValue name _ (typeId, slotIndex offset)) = entryFault? ..
  unfold entryValue entryFault? resolvePair DenseUnion.nullMarkersTypeId
  by_cases hnull : typeId = 0
  · simp only [hnull, if_true]
    rfl
  by_cases hone : typeId = 1
  · simp only [if_neg hnull, if_pos hone, failure?_map, failure?_armValue hfirsts]
  by_cases htwo : typeId = 2
  · simp only [if_neg hnull, if_neg hone, if_pos htwo, failure?_map, failure?_armValue hseconds]
  · simp only [if_neg hnull, if_neg hone, if_neg htwo]
    rfl

/-- What is read of a row is absent exactly if its entry is a null marker. -/
theorem eq_none_iff_typeId (hoffsets : offsets.length = typeIds.length) {values : List (Option γ)}
    (hreads : (pairUnion [first, second] typeIds offsets count firstArm secondArm).Reads
      (Cell.unionPair? wrapFirst wrapSecond readFirst readSecond) values)
    {row : Nat} (hrow : row < values.length) : values[row] = none ↔ typeIds[row]? = some 0 := by
  have htypeId : row < typeIds.length := Nat.lt_of_lt_of_eq hrow hreads.length
  have hentry : row < (unionEntries .dense typeIds offsets).length :=
    length_unionEntries_dense hoffsets ▸ htypeId
  rw [Cell.unionPair?_absent (hreads.row row hrow), cell_union_pair hentry,
    List.getElem?_eq_getElem htypeId]
  simp [unionEntries, Cell.isAbsent, DenseUnion.nullMarkersTypeId]

/-- Decoding fails with a fault, or there is none and every row is read, those of null
markers as absent. -/
def DecodesUnless (fault : Option DecodeError) (c : Column) (typeIds : List Int8)
    (read : Cell → Option (Option γ)) (result : Except DecodeError (List (Option γ))) : Prop :=
  match fault with
  | some e => result = .error e
  | none => ∃ values, result = .ok values ∧ c.Reads read values ∧
      ∀ row, (hrow : row < values.length) → (values[row] = none ↔ typeIds[row]? = some 0)

theorem decodesUnless_of_failure? {result : Except DecodeError (List (Option γ))}
    {fault : Option DecodeError} (hfault : failure? result = fault)
    (hoffsets : offsets.length = typeIds.length)
    (hreads : ∀ values, result = .ok values →
      (pairUnion [first, second] typeIds offsets count firstArm secondArm).Reads
        (Cell.unionPair? wrapFirst wrapSecond readFirst readSecond) values) :
    DecodesUnless fault (pairUnion [first, second] typeIds offsets count firstArm secondArm) typeIds
      (Cell.unionPair? wrapFirst wrapSecond readFirst readSecond) result := by
  subst hfault
  cases result with
  | error e => rfl
  | ok values =>
      have hvalues := hreads values rfl
      exact ⟨values, rfl, hvalues, fun row hrow => eq_none_iff_typeId hoffsets hvalues hrow⟩

end Column

open Column

/-! ## Rotations and scalings -/

namespace RotationAxisAngle

/-- Whether a row is present without an axis. -/
def lacksAxis : Cell → Bool
  | .struct (axis :: _) => axis.isNull
  | _ => false

/-- What is wrong with the first row that is present without an axis. -/
def axisFault? (c : Column) : Option DecodeError :=
  (List.range c.length).findSome? fun row =>
    if lacksAxis (c.cell row) then some (.missingData "rerun.datatypes.Vec3D" row) else none

variable {c : Column}

theorem failure?_decode (hreadable : c.Throughout Readable) (htype : c.datatype = datatype) :
    failure? (decode c) = axisFault? c := by
  obtain ⟨length, validity, axes, slots, values, rfl, haxesType, haxes, hslots, hreads, hdecode⟩ :=
    exists_decode_eq hreadable htype
  have harm : axes.ReadsArm (Vec3D.ofCell? true) values :=
    hreads.toArm (Vec3D.faithful.legible hreads haxesType fun _ _ => DataType.noConfusion)
      Vec3D.faithful.isNull_of_some
  rw [hdecode]
  refine failure?_mapM fun row hmem => ?_
  have hrow : row < length := List.mem_range.mp hmem
  have hvalue : row < values.length := by rwa [hreads.length, haxes]
  rw [cell_struct, decodeRow]
  by_cases hpresent : isPresent validity row = true
  · have haxis : itemAt values.toArray row = .ok values[row] := by simp [hvalue]
    have hangle : itemAt slots.toArray row = .ok slots[row] := by simp [hslots, hrow]
    simp only [hpresent, if_true, haxis, hangle, bind, Except.bind, lacksAxis, List.map_cons]
    cases hcase : values[row] with
    | none =>
        rw [if_pos ((harm.absent hvalue).mp hcase)]
        rfl
    | some axis =>
        have hfound : ¬ (axes.cell row).isNull = true := fun hnull => by
          rw [(harm.absent hvalue).mpr hnull] at hcase
          cases hcase
        rw [if_neg hfound]
        rfl
  · simp only [hpresent]
    rfl

/-- Rotations that are all decoded are read, with an absent value for each null. -/
theorem readsArm (hreadable : c.Throughout Readable) (htype : c.datatype = datatype)
    {values : List (Option RotationAxisAngle)} (hdecode : decode c = .ok values) :
    c.ReadsArm (ofCell? true) values :=
  have hreads : c.Reads (ofCell? true) values := faithful.reads hreadable htype hdecode
  hreads.toArm (faithful.legible hreads htype fun _ _ => DataType.noConfusion)
    faithful.isNull_of_some

end RotationAxisAngle

namespace Rotation3D

/-- What is wrong with a union of rotations. -/
def fault? (quaternions axisAngles : Column) (typeIds : List Int8) (offsets : List Int32) :
    Option DecodeError :=
  ((RotationAxisAngle.axisFault? axisAngles).map
      (.context "rerun.datatypes.Rotation3D#AxisAngle")).or
    (entriesFault? "rerun.datatypes.Rotation3D" quaternions axisAngles typeIds offsets)

theorem failure?_decode {c : Column} (hreadable : c.Throughout Readable)
    (htype : c.datatype = datatype) :
    ∃ typeIds offsets count quaternions axisAngles,
      c = pairUnion armFields typeIds offsets count quaternions axisAngles ∧
      offsets.length = typeIds.length ∧
      failure? (decode c) = fault? quaternions axisAngles typeIds offsets := by
  obtain ⟨typeIds, offsets, count, quaternions, axisAngles, values, rfl, hquaternions,
    haxisAngles, hoffsets, hreads, hdecode⟩ := exists_decode_eq hreadable htype
  refine ⟨typeIds, offsets, count, quaternions, axisAngles, rfl, hoffsets, ?_⟩
  have hquaternionArm : quaternions.ReadsArm (Quaternion.ofCell? true) values :=
    hreads.toArm (Quaternion.faithful.legible hreads hquaternions fun _ _ => DataType.noConfusion)
      Quaternion.faithful.isNull_of_some
  have hpart : axisAngles.Throughout Readable := hreadable.part (by simp [parts])
  rw [hdecode, fault?, ← RotationAxisAngle.failure?_decode hpart haxisAngles]
  cases hothers : RotationAxisAngle.decode axisAngles with
  | error e => rfl
  | ok others =>
      have haxisAngleArm := RotationAxisAngle.readsArm hpart haxisAngles hothers
      exact failure?_unionValues hquaternionArm haxisAngleArm

end Rotation3D

namespace Scale3D

theorem failure?_decode {c : Column} (hreadable : c.Throughout Readable)
    (htype : c.datatype = datatype) :
    ∃ typeIds offsets count vectors factors,
      c = pairUnion armFields typeIds offsets count vectors factors ∧
      offsets.length = typeIds.length ∧
      failure? (decode c) =
        entriesFault? "rerun.datatypes.Scale3D" vectors factors typeIds offsets := by
  obtain ⟨typeIds, offsets, count, vectors, slots, values, rfl, hvectors, hoffsets, hreads,
    hdecode⟩ := exists_decode_eq hreadable htype
  refine ⟨typeIds, offsets, count, vectors, .scalar .float32 slots, rfl, hoffsets, ?_⟩
  have hvectorArm : vectors.ReadsArm (Vec3D.ofCell? true) values :=
    hreads.toArm (Vec3D.faithful.legible hreads hvectors fun _ _ => DataType.noConfusion)
      Vec3D.faithful.isNull_of_some
  have hfactorArm : (Column.scalar .float32 slots).ReadsArm (Cell.optional? .float32)
      (slots.map Slot.get?) :=
    (reads_scalar slots).toArm (legible_scalar slots) Cell.isNull_of_optional?
  rw [hdecode]
  exact failure?_unionValues hvectorArm hfactorArm

end Scale3D

/-- A union of rotations or of scalings is refused for one thing only: for the first rotation
about an axis that lacks its axis, whether or not an entry points at it, and otherwise for the
first entry that is not a null marker and names an arm that is not there, or a slot that is
missing or null. If there is nothing of that kind each entry is read. This holds of unions
whose parts have the datatypes of their fields and lengths that fit, and of whose lists all
rows that are present start in time. -/
theorem decode_malformed (c : Column) (hreadable : c.Throughout Readable) :
    (c.datatype = Rotation3D.datatype →
      ∃ typeIds offsets count quaternions axisAngles,
        c = pairUnion Rotation3D.armFields typeIds offsets count quaternions axisAngles ∧
        DecodesUnless (Rotation3D.fault? quaternions axisAngles typeIds offsets) c typeIds
          (Rotation3D.ofCell? true) (Rotation3D.codec.decode c)) ∧
    (c.datatype = Scale3D.datatype →
      ∃ typeIds offsets count vectors factors,
        c = pairUnion Scale3D.armFields typeIds offsets count vectors factors ∧
        DecodesUnless (entriesFault? "rerun.datatypes.Scale3D" vectors factors typeIds offsets) c
          typeIds (Scale3D.ofCell? true) (Scale3D.codec.decode c)) := by
  constructor
  · intro htype
    obtain ⟨typeIds, offsets, count, quaternions, axisAngles, rfl, hoffsets, hfailure⟩ :=
      Rotation3D.failure?_decode hreadable htype
    refine ⟨typeIds, offsets, count, quaternions, axisAngles, rfl, ?_⟩
    exact decodesUnless_of_failure? hfailure hoffsets fun values hdecode =>
      Rotation3D.faithful.reads hreadable htype hdecode
  · intro htype
    obtain ⟨typeIds, offsets, count, vectors, factors, rfl, hoffsets, hfailure⟩ :=
      Scale3D.failure?_decode hreadable htype
    refine ⟨typeIds, offsets, count, vectors, factors, rfl, ?_⟩
    exact decodesUnless_of_failure? hfailure hoffsets fun values hdecode =>
      Scale3D.faithful.reads hreadable htype hdecode

/-- A null marker that points nowhere, a quaternion before the first one, an arm that is not
there and a null quaternion. No entry points at a rotation about an axis. -/
def strayRotations (axes : Option (List Bool)) : Column :=
  .pairUnion Rotation3D.armFields [0, 1, 7, 1] [-5, -1, 0, 0] 0
    (Kind.vectors 4 1 (some [false]) [.null .one, .null .zero, .null .zero, .null .zero])
    (.struct RotationAxisAngle.fields 2 none
      [Kind.vectors 3 2 axes (.replicate 6 (.value .one)),
        .scalar .float32 [.value .one, .value .one]])

theorem decode_malformed_strayRotations :
    (strayRotations (some [true, false])).Throughout Readable ∧
      Rotation3D.codec.decode (strayRotations (some [true, false])) =
        .error (.context "rerun.datatypes.Rotation3D#AxisAngle"
          (.missingData "rerun.datatypes.Vec3D" 1)) ∧
      (strayRotations none).Throughout Readable ∧
      Rotation3D.codec.decode (strayRotations none) =
        .error (.offsetOutOfBounds "rerun.datatypes.Rotation3D" 0xffff_ffff_ffff_ffff 1) := by
  have hwithout : (strayRotations (some [true, false])).Throughout Readable :=
    .readable (by decide) (by decide)
  have hwith : (strayRotations none).Throughout Readable := .readable (by decide) (by decide)
  refine ⟨hwithout, ?_, hwith, ?_⟩
  · obtain ⟨_, _, _, _, _, hparts, hdecodes⟩ := (decode_malformed _ hwithout).1 rfl
    cases hparts
    exact hdecodes
  · obtain ⟨_, _, _, _, _, hparts, hdecodes⟩ := (decode_malformed _ hwith).1 rfl
    cases hparts
    exact hdecodes

/-- A null marker over any two arms of the union of rotations. -/
def markerOver (quaternions axisAngles : Column) : Column :=
  .union (DenseUnion.arms Rotation3D.armFields) .dense [0] [0] [.null 1, quaternions, axisAngles]

/-- A row that is present, with an axis but without a slot for an angle. -/
def bareAxis : Column :=
  .struct RotationAxisAngle.fields 1 none
    [Kind.vectors 3 1 none [.value .one, .value .zero, .value .zero], .scalar .float32 []]

/-- A quaternion behind absent ones. -/
def lastQuaternion (absent : Nat) : Column :=
  Quaternion.column (List.replicate absent none ++ [some .identity])

/-- Quaternions that cannot be read are in the way even if no entry points at them. -/
theorem Rotation3D.decode_lastQuaternion {absent : Nat} (hcount : absent < 2 ^ 31)
    (hstart : lastStart < absent * 4) :
    let axisAngles := Column.empty RotationAxisAngle.datatype
    let c := markerOver (lastQuaternion absent) axisAngles
    c.datatype = Rotation3D.datatype ∧
      fault? (lastQuaternion absent) axisAngles [0] [0] = none ∧
      ∀ values, codec.decode c ≠ .ok values := by
  refine ⟨rfl, rfl, fun values hdecode => ?_⟩
  obtain ⟨quaternions, hwithin, -⟩ := bind_eq_ok_iff.mp ((decode_union ..).symm.trans hdecode)
  exact Codec.decode_vector_behind_absent (by decide) hcount hstart
    (DecodeError.within_eq_ok_iff.mp hwithin)

/-- One null marker over floats of 64 bits, one over an axis without an angle and one over a
quaternion behind `2 ^ 29` absent ones: nothing is wrong with the entry or with the axis, and
none of the unions is read. Whoever makes the first one does not compare its arms with their
fields. -/
theorem decode_malformed_markerOver :
    (let quaternions := Column.empty Quaternion.datatype
      let c := markerOver quaternions (.scalar .float64 [])
      Column.union? (DenseUnion.arms Rotation3D.armFields) .dense [0] [0]
          [.null 1, quaternions, .scalar .float64 []] = .ok c ∧
        c.datatype = Rotation3D.datatype ∧
        Rotation3D.fault? quaternions (.scalar .float64 []) [0] [0] = none ∧
        Rotation3D.codec.decode c =
          .error (.context "rerun.datatypes.Rotation3D#AxisAngle"
            (.datatypeMismatch RotationAxisAngle.datatype (.scalar .float64)))) ∧
    (let quaternions := Column.empty Quaternion.datatype
      let c := markerOver quaternions bareAxis
      c.datatype = Rotation3D.datatype ∧
        Rotation3D.fault? quaternions bareAxis [0] [0] = none ∧
        Rotation3D.codec.decode c =
          .error (.context "rerun.datatypes.Rotation3D#AxisAngle" (.slotOutOfRange 0 0))) ∧
    (let axisAngles := Column.empty RotationAxisAngle.datatype
      let c := markerOver (lastQuaternion (2 ^ 29)) axisAngles
      c.datatype = Rotation3D.datatype ∧
        Rotation3D.fault? (lastQuaternion (2 ^ 29)) axisAngles [0] [0] = none ∧
        ∀ values, Rotation3D.codec.decode c ≠ .ok values) :=
  ⟨⟨rfl, rfl, rfl, rfl⟩, ⟨rfl, rfl, rfl⟩,
    Rotation3D.decode_lastQuaternion (by decide) (by decide)⟩

end SpatialColumns
