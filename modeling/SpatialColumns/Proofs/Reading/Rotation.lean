import SpatialColumns.Proofs.Reading.DenseUnion
import SpatialColumns.Rotation3D

/-!
# Rotations, read row by row

A rotation about an axis is read off the cells of its axis and of its angle, in the
rows that are present and in no others. A rotation is read off the slot that its
entry points at.
-/

namespace SpatialColumns

namespace RotationAxisAngle

open Column

/-- The rotation that a cell holds. Its axis has to be there. -/
def ofCell? (fill : Bool) : Cell → Option (Option RotationAxisAngle)
  | .null => some none
  | .struct [axis, angle] => do
    let axis ← (Vec3D.ofCell? fill axis).join
    let angle ← angle.scalar? fill .float32
    return some ⟨axis, ⟨angle⟩⟩
  | _ => none

variable {c : Column}

/-- A column of the datatype has a column of axes and one of angles. -/
theorem eq_struct_of_typed (htyped : c.Throughout Typed) (htype : c.datatype = datatype) :
    ∃ length validity axes slots,
      c = .struct fields length validity [axes, .scalar .float32 slots] ∧
      axes.datatype = Vec3D.datatype := by
  obtain ⟨length, validity, children, rfl, htypes⟩ := Column.eq_struct_of_typed htyped htype
  simp only [fields, List.map_cons, List.map_nil, List.map_eq_cons_iff,
    List.map_eq_nil_iff] at htypes
  obtain ⟨axes, _, rfl, haxes, angles, _, rfl, hangles, rfl⟩ := htypes
  obtain ⟨slots, rfl⟩ := eq_scalar_of_datatype hangles
  exact ⟨length, validity, axes, slots, rfl, haxes⟩

/-- A readable column, taken apart: what it decodes to is read off its validity bits, the axes
and the angles. -/
theorem exists_decode_eq (hreadable : c.Throughout Readable) (htype : c.datatype = datatype) :
    ∃ length validity axes slots values,
      c = .struct fields length validity [axes, .scalar .float32 slots] ∧
      axes.datatype = Vec3D.datatype ∧ axes.length = length ∧ slots.length = length ∧
      axes.Reads (Vec3D.ofCell? true) values ∧
      decode c = (List.range length).mapM fun row =>
        decodeRow values.toArray slots.toArray (isPresent validity row) row := by
  obtain ⟨length, validity, axes, slots, rfl, haxes⟩ :=
    eq_struct_of_typed (hreadable.imp fun _ h => h.aligned.typed) htype
  obtain ⟨-, hlengths, hbits⟩ := hreadable.self.aligned
  obtain ⟨values, hvalues, hreads⟩ : ∃ values, Vec3D.codec.decode axes = .ok values ∧
      axes.Reads (Vec3D.ofCell? true) values :=
    Codec.exists_decode_vector (by decide) (hreadable.part List.mem_cons_self) haxes
  refine ⟨length, validity, axes, slots, values, rfl, haxes, hlengths _ (by simp),
    hlengths (scalar .float32 slots) (by simp), hreads, ?_⟩
  rw [decode_struct, hvalues]
  exact readRows_eq_mapM hbits

/-- A column of rotations decodes to what its cells hold, and fails for a missing axis
only. -/
theorem decodesTo (hreadable : c.Throughout Readable) (htype : c.datatype = datatype) :
    c.DecodesTo c.Pointed (ofCell? true) (decode c) := by
  obtain ⟨length, validity, axes, slots, values, rfl, -, haxes, hslots, hreads, hdecode⟩ :=
    exists_decode_eq hreadable htype
  rw [hdecode]
  refine decodesTo_range fun row (hrow : row < length) => ?_
  obtain ⟨axis, haxis, hcell⟩ := hreads.itemAt (haxes.symm ▸ hrow)
  have hangle : itemAt slots.toArray row = .ok slots[row] := by simp [hslots, hrow]
  have hfloat : ((scalar .float32 slots).cell row).scalar? true .float32 =
      some slots[row].raw := by
    rw [cell_scalar (hslots.symm ▸ hrow), Cell.scalar?_ofSlot]
  rw [cell_struct, decodeRow]
  by_cases hpresent : isPresent validity row = true
  · cases axis with
    | none =>
        have hnone : ofCell? true (.struct [axes.cell row, (scalar .float32 slots).cell row]) =
            none := by simp [ofCell?, hcell]
        simp only [hpresent, if_true, haxis, bind, Except.bind, List.map_cons, List.map_nil, hnone]
        exact .error _ fun _ => ⟨_, _, rfl⟩
    | some axis =>
        have hsome : ofCell? true (.struct [axes.cell row, (scalar .float32 slots).cell row]) =
            some (some ⟨axis, ⟨slots[row].raw⟩⟩) := by simp [ofCell?, hcell, hfloat]
        simp only [hpresent, if_true, haxis, hangle, bind, Except.bind, pure, Except.pure,
          List.map_cons, List.map_nil, hsome]
        exact .ok _
  · simp only [hpresent, Bool.false_eq_true, if_false]
    exact .ok none

/-- In a valid column each row is read, and no null slot taken for a value. -/
theorem isSome_ofCell? (hvalid : c.Valid) (haddressable : c.Throughout Addressable)
    (htype : c.datatype = datatype) {row : Nat} (hrow : row < c.length) :
    (ofCell? false (c.cell row)).isSome = true := by
  obtain ⟨length, validity, axes, slots, -, rfl, haxesType, haxes, hslots, -, -⟩ :=
    exists_decode_eq (hvalid.aligned.readable haddressable) htype
  rw [cell_struct]
  by_cases hpresent : isPresent validity row = true
  · have haxisNull : (axes.cell row).isNull = false :=
      hvalid.complete.self (_, axes) List.mem_cons_self rfl row hrow hpresent
    have hangleNull : ((scalar .float32 slots).cell row).isNull = false :=
      hvalid.complete.self (_, scalar .float32 slots) (List.mem_cons_of_mem _ List.mem_cons_self)
        rfl row hrow hpresent
    obtain ⟨_, -, hreads⟩ := Vec3D.faithful.decodes (hvalid.part List.mem_cons_self)
      (haddressable.part List.mem_cons_self) haxesType
    obtain ⟨axis, haxis⟩ := Vec3D.faithful.legible hreads haxesType
      (fun _ _ => DataType.noConfusion) row (haxes.symm ▸ hrow) haxisNull
    have hslot : row < slots.length := hslots.symm ▸ hrow
    have hangle : ((scalar .float32 slots).cell row).scalar? false .float32 =
        some slots[row].raw := by
      rw [← Cell.scalar?_of_isNull_eq_false hangleNull, cell_scalar hslot, Cell.scalar?_ofSlot]
    simp [hpresent, ofCell?, haxis, hangle]
  · simp [hpresent, ofCell?]

theorem ofCell?_of_strict {cell : Cell} {value : Option RotationAxisAngle}
    (h : ofCell? false cell = some value) : ofCell? true cell = some value := by
  fun_cases ofCell? false cell with
  | case1 => exact h
  | case2 axis angle =>
      simp only [ofCell?, Option.bind_eq_bind, Option.bind_eq_some_iff, Option.join_eq_some_iff]
        at h ⊢
      obtain ⟨a, haxis, r, hangle, hvalue⟩ := h
      exact ⟨a, Vec3D.faithful.strict haxis, r, Cell.scalar?_of_strict hangle, hvalue⟩
  | case3 => simp_all [ofCell?]

/-- A rotation is absent exactly if it is null. -/
theorem ofCell?_absent {fill : Bool} {cell : Cell} {value : Option RotationAxisAngle}
    (h : ofCell? fill cell = some value) : value = none ↔ cell.isAbsent = true := by
  fun_cases ofCell? fill cell with
  | case1 =>
      cases h
      simp [Cell.isAbsent]
  | case2 axis angle =>
      simp only [ofCell?, Option.bind_eq_bind, Option.bind_eq_some_iff] at h
      obtain ⟨a, -, r, -, hvalue⟩ := h
      cases hvalue
      simp [Cell.isAbsent]
  | case3 => simp_all [ofCell?]

theorem faithful : codec.Faithful ofCell? :=
  .of_parts (fun hreadable htype => .inl (decodesTo hreadable htype)) isSome_ofCell?
    ofCell?_of_strict ofCell?_absent

end RotationAxisAngle

namespace Rotation3D

open Column

/-- The rotation that an entry holds. -/
def ofCell? (fill : Bool) : Cell → Option (Option Rotation3D) :=
  Cell.unionPair? .quaternion .axisAngle (Quaternion.ofCell? fill) (RotationAxisAngle.ofCell? fill)

variable {c : Column}

/-- A readable column, taken apart. Its quaternions always decode. -/
theorem exists_decode_eq (hreadable : c.Throughout Readable) (htype : c.datatype = datatype) :
    ∃ typeIds offsets count quaternions axisAngles values,
      c = pairUnion armFields typeIds offsets count quaternions axisAngles ∧
      quaternions.datatype = Quaternion.datatype ∧
      axisAngles.datatype = RotationAxisAngle.datatype ∧ offsets.length = typeIds.length ∧
      quaternions.Reads (Quaternion.ofCell? true) values ∧
      decode c = (DecodeError.within (typeName ++ "#AxisAngle")
        (RotationAxisAngle.decode axisAngles)).bind fun others =>
          unionValues typeName (unionEntries .dense typeIds offsets)
            (resolve values.toArray others.toArray) := by
  obtain ⟨typeIds, offsets, count, quaternions, axisAngles, hc, hfirst, hsecond, hoffsets⟩ :=
    eq_union_pair_of_datatype hreadable.aligned htype
  change c = pairUnion armFields typeIds offsets count quaternions axisAngles at hc
  subst hc
  obtain ⟨values, hvalues, hreads⟩ : ∃ values, Quaternion.codec.decode quaternions = .ok values ∧
      quaternions.Reads (Quaternion.ofCell? true) values :=
    Codec.exists_decode_vector (by decide)
      (hreadable.part (List.mem_cons_of_mem _ List.mem_cons_self)) hfirst
  refine ⟨typeIds, offsets, count, quaternions, axisAngles, values, rfl, hfirst, hsecond, hoffsets,
    hreads, ?_⟩
  rw [decode_union, hvalues]
  rfl

/-- A column of rotations decodes to what its entries hold, unless one of its rotations about
an axis fails to. -/
theorem decode_cases (hreadable : c.Throughout Readable) (htype : c.datatype = datatype) :
    c.DecodesTo c.Pointed (ofCell? true) (decode c) ∨ codec.FailsInPart c := by
  obtain ⟨typeIds, offsets, count, quaternions, axisAngles, values, rfl, -, haxisAngles, hoffsets,
    hvalues, hdecode⟩ := exists_decode_eq hreadable htype
  have hpart : axisAngles ∈
      (pairUnion armFields typeIds offsets count quaternions axisAngles).parts := by simp [parts]
  cases hothers : RotationAxisAngle.decode axisAngles with
  | error e =>
      rw [hothers] at hdecode
      exact .inr (.intro hpart RotationAxisAngle.faithful haxisAngles hothers hdecode)
  | ok others =>
      rw [hothers] at hdecode
      rw [hdecode]
      exact .inl (decodesTo_unionValues hoffsets DataType.noConfusion DataType.noConfusion hvalues
        (RotationAxisAngle.faithful.reads (hreadable.part hpart) haxisAngles hothers))

/-- In a valid column each entry is read, and no null slot taken for a value. -/
theorem isSome_ofCell? (hvalid : c.Valid) (haddressable : c.Throughout Addressable)
    (htype : c.datatype = datatype) {row : Nat} (hrow : row < c.length) :
    (ofCell? false (c.cell row)).isSome = true := by
  obtain ⟨typeIds, offsets, count, quaternions, axisAngles, -, rfl, hquaternions, haxisAngles,
    hoffsets, -, -⟩ := exists_decode_eq (hvalid.aligned.readable haddressable) htype
  have hfirst : quaternions ∈
      (pairUnion armFields typeIds offsets count quaternions axisAngles).parts := by simp [parts]
  have hsecond : axisAngles ∈
      (pairUnion armFields typeIds offsets count quaternions axisAngles).parts := by simp [parts]
  obtain ⟨_, -, hfirsts⟩ := Quaternion.faithful.decodes (hvalid.part hfirst)
    (haddressable.part hfirst) hquaternions
  obtain ⟨_, -, hseconds⟩ := RotationAxisAngle.faithful.decodes (hvalid.part hsecond)
    (haddressable.part hsecond) haxisAngles
  have hentry : row < (unionEntries .dense typeIds offsets).length :=
    length_unionEntries_dense hoffsets ▸ hrow
  refine isSome_unionPair?
    (Quaternion.faithful.legible hfirsts hquaternions fun _ _ => DataType.noConfusion)
    (RotationAxisAngle.faithful.legible hseconds haxisAngles fun _ _ => DataType.noConfusion)
    hentry ?_
  exact resolves_of_required rfl rfl DataType.noConfusion DataType.noConfusion
    hvalid.complete.self hvalid.pointed.self hentry

theorem ofCell?_of_strict {cell : Cell} {value : Option Rotation3D}
    (h : ofCell? false cell = some value) : ofCell? true cell = some value :=
  Cell.unionPair?_of_imp (fun _ _ => Quaternion.faithful.strict)
    (fun _ _ => RotationAxisAngle.faithful.strict) h

theorem faithful : codec.Faithful ofCell? :=
  .of_parts decode_cases isSome_ofCell? ofCell?_of_strict Cell.unionPair?_absent

end Rotation3D

end SpatialColumns
