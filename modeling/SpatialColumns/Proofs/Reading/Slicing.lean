import SpatialColumns.Proofs.Codec.RoundTrip
import SpatialColumns.Proofs.Column.Slice
import SpatialColumns.Proofs.Reading.Registered

/-!
# Slices, decoded

A slice takes its rows from the same place at every level of a nested column: the
items of lists and the children of structs are sliced with their rows, and the arms of
a dense union stay whole under entries that point where they pointed. So what decodes
as a list of values decodes in slices as the windows of that list.
-/

namespace SpatialColumns

open Column

variable {α β : Type}

namespace Codec

/-- A codec that decodes each slice of a column as that window of the column's values. -/
def Slices (c : Codec α) : Prop :=
  ∀ {column : Column} {values : List (Option α)} {offset count : Nat},
    column.Throughout Readable → column.datatype = c.datatype →
      c.decode column = .ok values → offset + count ≤ column.length →
        c.decode (column.slice offset count) = .ok (window offset count values)

/-- Wrapping values does not touch the rows. -/
theorem Slices.component {c : Codec α} (h : c.Slices) {name : String} {wrap : α → β}
    {unwrap : β → α} : (c.component name wrap unwrap).Slices := by
  intro column values offset count hreadable htype hdecode hend
  obtain ⟨inner, hinner, rfl⟩ := decode_component_eq_ok_iff.mp hdecode
  rw [decode_component_of_ok (h hreadable htype hinner hend), map_window]

/-- The rows of a slice of lists lie in the sliced items. -/
theorem slices_vector {type : Primitive} {n builderSize elementSize : Nat} {name : String}
    {toVector : α → Vector type.Native n} {ofVector : Vector type.Native n → α} (hn : n < 2 ^ 31) :
    (vector name type n builderSize elementSize toVector ofVector).Slices := by
  intro column values offset count hreadable htype hdecode hend
  obtain ⟨length, validity, slots, rfl, -, -⟩ := eq_list_of_datatype hreadable.aligned htype
  have haddressable := hreadable.self.addressable
  simp only [Addressable, rowSize_ofNat hn] at haddressable
  simp only [vector, bind, bind_eq_ok_iff, pure, Except.pure, Except.ok.injEq,
    fixedSizeListRows_eq] at hdecode
  obtain ⟨rows, hrows, rfl⟩ := hdecode
  have hrowsEnd : offset + count ≤ rows.length := (readRows_eq_ok_iff.mp hrows).1 ▸ hend
  have hwindow := readRows_window hrows hrowsEnd fun present row value hrow hbit hvalue =>
    listRow_window (rowSize_ofNat hn) hrow (fun hpresent => haddressable _
      (Nat.lt_of_lt_of_le (Nat.add_lt_add_left hrow offset) hend)
      (hpresent ▸ isPresent_of_bit? hbit)) hvalue
  simp only [vector, slice, rowSize_ofNat hn, fixedSizeListRows_eq, map_window, hwindow, bind,
    Except.bind, pure, Except.pure]

end Codec

theorem Vec3D.slices : Vec3D.codec.Slices := Codec.slices_vector (by decide)

theorem Quaternion.slices : Quaternion.codec.Slices := Codec.slices_vector (by decide)

theorem Uuid.slices : Uuid.codec.Slices := Codec.slices_vector (by decide)

namespace Uuid

variable {absent : Nat}

/-- An identifier whose row number is cut to zero is read off the slots of the first row. -/
theorem decode_wrapped (hpos : 0 < absent) (hcut : (Int32.ofNat absent).toInt = 0) (last : Uuid) :
    codec.decode (column (List.replicate absent none ++ [some last])) =
      .ok (List.replicate absent none ++ [some .nil]) := by
  have hread := fixedSizeListRows_wrapped .uint8 hpos hcut last.bytes
  refine bind_eq_ok_iff.mpr ⟨List.replicate absent none ++ [some (.replicate 16 0)], ?_, ?_⟩
  · rw [column, List.map_append, List.map_replicate]
    exact hread
  · rw [List.map_append, List.map_replicate]
    rfl

/-- Sliced off, the identifier behind any number of absent ones is read as itself. -/
theorem decode_slice_last (hpos : 0 < absent) (last : Uuid) :
    codec.decode ((column (List.replicate absent none ++ [some last])).slice absent 1) =
      .ok [some last] := by
  have hread := fixedSizeListRows_slice_last .uint8 (by decide) hpos last.bytes
  refine bind_eq_ok_iff.mpr ⟨[some last.bytes], ?_, rfl⟩
  rw [column, List.map_append, List.map_replicate]
  exact hread

end Uuid

/-! ## Rotations and scalings -/

theorem RotationAxisAngle.slices : codec.Slices := by
  intro column values offset count hreadable htype hdecode hend
  obtain ⟨length, validity, axes, slots, -, rfl, haxes, hlength, -, -, -⟩ :=
    exists_decode_eq hreadable htype
  obtain ⟨axisValues, hwithin, hrows⟩ := bind_eq_ok_iff.mp ((decode_struct ..).symm.trans hdecode)
  have haxisValues := DecodeError.within_eq_ok_iff.mp hwithin
  have hwindow := Vec3D.slices (hreadable.part List.mem_cons_self) haxes haxisValues
    (hlength.symm ▸ hend)
  have hvalues : offset + count ≤ values.length := (readRows_eq_ok_iff.mp hrows).1 ▸ hend
  refine (decode_struct ..).trans (bind_eq_ok_iff.mpr
    ⟨_, DecodeError.within_eq_ok_iff.mpr hwindow, ?_⟩)
  refine readRows_window hrows hvalues fun present row value hrow _ hvalue => ?_
  cases present with
  | false => exact hvalue
  | true =>
      simp only [decodeRow, if_true, bind, bind_eq_ok_iff] at hvalue ⊢
      obtain ⟨axis, haxis, hvalue⟩ := hvalue
      refine ⟨axis, itemAt_window hrow haxis, ?_⟩
      cases axis with
      | none => cases hvalue
      | some axis =>
          simp only [bind_eq_ok_iff] at hvalue ⊢
          obtain ⟨angle, hangle, hvalue⟩ := hvalue
          exact ⟨angle, itemAt_window hrow hangle, hvalue⟩

/-- An entry of a dense union points where it pointed before its union was sliced. -/
theorem Column.unionValues_window {γ : Type} {name : String} {typeIds : List Int8}
    {offsets : List Int32} {resolve : Int8 → Nat → Option (Except DecodeError γ)}
    {values : List (Option γ)} {offset count : Nat}
    (h : unionValues name (unionEntries .dense typeIds offsets) resolve = .ok values) :
    unionValues name
        (unionEntries .dense (window offset count typeIds) (window offset count offsets)) resolve =
      .ok (window offset count values) := by
  have hentries : unionEntries .dense (window offset count typeIds) (window offset count offsets) =
      window offset count (unionEntries .dense typeIds offsets) := by
    simp only [unionEntries, map_window, zip_window]
  rw [unionValues_eq_mapM] at h ⊢
  rw [hentries]
  exact mapM_window h

theorem Rotation3D.slices : codec.Slices := by
  intro column values offset count hreadable htype hdecode hend
  obtain ⟨typeIds, offsets, nulls, quaternions, axisAngles, -, rfl, -, -, -, -, -⟩ :=
    exists_decode_eq hreadable htype
  obtain ⟨_, hquaternions, hothers⟩ := bind_eq_ok_iff.mp ((decode_union ..).symm.trans hdecode)
  obtain ⟨_, haxisAngles, hentries⟩ := bind_eq_ok_iff.mp hothers
  exact (decode_union ..).trans (bind_eq_ok_iff.mpr
    ⟨_, hquaternions, bind_eq_ok_iff.mpr ⟨_, haxisAngles, unionValues_window hentries⟩⟩)

theorem Scale3D.slices : codec.Slices := by
  intro column values offset count hreadable htype hdecode hend
  obtain ⟨typeIds, offsets, nulls, vectors, slots, -, rfl, -, -, -, -⟩ :=
    exists_decode_eq hreadable htype
  obtain ⟨_, hvectors, hentries⟩ := bind_eq_ok_iff.mp ((decode_union ..).symm.trans hdecode)
  exact (decode_union ..).trans (bind_eq_ok_iff.mpr ⟨_, hvectors, unionValues_window hentries⟩)

/-! ## Transforms -/

theorem TranslationRotationScale3D.slices : codec.Slices := by
  intro column values offset count hreadable htype hdecode hend
  obtain ⟨length, validity, translations, rotations, scales, slots, -, rfl, htranslations,
    hrotations, hscales, htranslation, hrotation, hscale, -, -, -⟩ :=
    exists_decode_eq hreadable htype
  obtain ⟨_, htranslationValues, hothers⟩ :=
    bind_eq_ok_iff.mp ((decode_struct ..).symm.trans hdecode)
  obtain ⟨_, hrotationValues, hothers⟩ := bind_eq_ok_iff.mp hothers
  obtain ⟨_, hscaleValues, hrows⟩ := bind_eq_ok_iff.mp hothers
  have htranslationWindow := Vec3D.slices (hreadable.part (by simp [parts])) htranslations
    (DecodeError.within_eq_ok_iff.mp htranslationValues) (htranslation.symm ▸ hend)
  have hrotationWindow := Rotation3D.slices (hreadable.part (by simp [parts])) hrotations
    (DecodeError.within_eq_ok_iff.mp hrotationValues) (hrotation.symm ▸ hend)
  have hscaleWindow := Scale3D.slices (hreadable.part (by simp [parts])) hscales
    (DecodeError.within_eq_ok_iff.mp hscaleValues) (hscale.symm ▸ hend)
  have hvalues : offset + count ≤ values.length := (readRows_eq_ok_iff.mp hrows).1 ▸ hend
  refine (decode_struct ..).trans ?_
  refine bind_eq_ok_iff.mpr ⟨_, DecodeError.within_eq_ok_iff.mpr htranslationWindow, ?_⟩
  refine bind_eq_ok_iff.mpr ⟨_, DecodeError.within_eq_ok_iff.mpr hrotationWindow, ?_⟩
  refine bind_eq_ok_iff.mpr ⟨_, DecodeError.within_eq_ok_iff.mpr hscaleWindow, ?_⟩
  refine readRows_window hrows hvalues fun present row value hrow _ hvalue => ?_
  cases present with
  | false => exact hvalue
  | true =>
      simp only [decodeRow, if_true, bind, bind_eq_ok_iff] at hvalue ⊢
      obtain ⟨translation, htranslation, rotation, hrotation, scale, hscale, direction,
        hdirection, hvalue⟩ := hvalue
      exact ⟨translation, itemAt_window hrow htranslation, rotation, itemAt_window hrow hrotation,
        scale, itemAt_window hrow hscale, direction, itemAt_window hrow hdirection, hvalue⟩

/-! ## Registered kinds -/

namespace Kind

theorem slices_of_registered {k : Kind} (hk : k ∈ registered) : k.codec.Slices := by
  simp only [registered, List.mem_cons, List.not_mem_nil, or_false] at hk
  rcases hk with rfl | rfl | rfl | rfl | rfl | rfl | rfl | rfl | rfl
  · exact Vec3D.slices
  · exact Quaternion.slices
  · exact RotationAxisAngle.slices
  · exact Rotation3D.slices
  · exact Scale3D.slices
  · exact TranslationRotationScale3D.slices
  · exact Uuid.slices
  · exact TranslationRotationScale3D.slices.component
  · exact Uuid.slices.component

/-- Of a column that decodes, every slice within its rows is there and decodes to those
values, all of which are present exactly if none of them is absent. The parts of the column
fit their fields and its rows, and all rows of lists that are present start in time. The same
holds of the slice, which may be sliced further. -/
theorem decode_slice {k : Kind} (hk : k ∈ registered) {c : Column}
    (hreadable : c.Throughout Readable) (htype : c.datatype = k.codec.datatype)
    {values : List (Option k.Value)} (hdecode : k.codec.decode c = .ok values)
    {offset count : Nat} (hend : offset + count ≤ values.length) :
    ∃ part, c.slice? offset count = some part ∧ part.Throughout Readable ∧
      part.datatype = k.codec.datatype ∧ part.length = count ∧
      k.codec.decode part = .ok ((values.drop offset).take count) ∧
      ((∃ present, k.codec.decodeAll part = .ok present) ↔
        none ∉ (values.drop offset).take count) := by
  have hlength := ((faithful_of_registered hk).reads hreadable htype hdecode).length
  have hrows : offset + count ≤ c.length := hlength ▸ hend
  have hwindow : k.codec.decode (c.slice offset count) = .ok ((values.drop offset).take count) :=
    slices_of_registered hk hreadable htype hdecode hrows
  refine ⟨c.slice offset count, ?_, readable_slice c hreadable hrows, ?_, length_slice hrows,
    hwindow, ?_⟩
  · exact slice?_eq_some_iff.mpr ⟨sliceable_of_aligned c hreadable.aligned hrows, rfl⟩
  · rwa [datatype_slice]
  · simp only [Codec.decodeAll, hwindow, bind, Except.bind]
    exact Codec.exists_allPresent_iff

/-- Without the first of the stray transforms, the others still find their parts. One of
them is absent. -/
theorem decode_slice_strayTransforms :
    transform3D ∈ registered ∧ strayTransforms.Throughout Readable ∧
      strayTransforms.datatype = transform3D.codec.datatype ∧
      ∃ part, strayTransforms.slice? 1 2 = some part ∧
        transform3D.codec.decode part = .ok
          [none, some ⟨some ⟨.zero, .one, .one⟩, none, some (.threeD ⟨.one, .one, .zero⟩), false⟩] ∧
        ¬ ∃ present, transform3D.codec.decodeAll part = .ok present := by
  have hregistered : transform3D ∈ registered := by decide
  have hreadable : strayTransforms.Throughout Readable := .readable (by decide) (by decide)
  refine ⟨hregistered, hreadable, rfl, ?_⟩
  obtain ⟨part, hpart, -, -, -, hdecode, hpresent⟩ :=
    decode_slice hregistered hreadable rfl
      (rfl : transform3D.codec.decode strayTransforms = .ok [some _, none, some _])
      (by decide : 1 + 2 ≤ 3)
  exact ⟨part, hpart, hdecode, fun h => hpresent.mp h List.mem_cons_self⟩

/-- Two rotations about an axis, the second of them null and without slots of its own. -/
def maskedTail : Column :=
  .struct RotationAxisAngle.fields 2 (some [true, false])
    [vectors 3 1 none [.value .one, .value .zero, .value .zero], .scalar .float32 [.value .one]]

/-- A null row without slots is read, but there is no slice with it. An identifier behind
`2 ^ 32` absent ones is read as the first one's slots, and in a slice as itself. -/
theorem decode_slice_maskedTail :
    rotationAxisAngle.codec.decode maskedTail = .ok [some ⟨⟨.one, .zero, .zero⟩, ⟨.one⟩⟩, none] ∧
      maskedTail.slice? 1 1 = none ∧
      let last : Uuid := ⟨.replicate 16 1⟩
      let c := Uuid.column (List.replicate (2 ^ 32) none ++ [some last])
      uuid.codec.decode c = .ok (List.replicate (2 ^ 32) none ++ [some .nil]) ∧
      uuid.codec.decode (c.slice (2 ^ 32) 1) = .ok [some last] ∧ last ≠ .nil :=
  ⟨rfl, rfl, Uuid.decode_wrapped (by decide) (by decide) _, Uuid.decode_slice_last (by decide) _,
    by decide⟩

end Kind

end SpatialColumns
