import SpatialColumns.Proofs.Reading.Rotation
import SpatialColumns.Transform3D

/-!
# Scalings and transforms, read row by row

A scaling is read off the slot that its entry points at. A transform is read off the
cells of its parts, each of which may be absent, and of its direction, in the rows that
are present.
-/

namespace SpatialColumns

namespace Scale3D

open Column

/-- The scaling that an entry holds. A factor for all axes is never made up. -/
def ofCell? (fill : Bool) : Cell → Option (Option Scale3D) :=
  Cell.unionPair? .threeD .uniform (Vec3D.ofCell? fill) (Cell.optional? .float32)

variable {c : Column}

/-- A readable column, taken apart. Its arms always decode. -/
theorem exists_decode_eq (hreadable : c.Throughout Readable) (htype : c.datatype = datatype) :
    ∃ typeIds offsets count vectors slots values,
      c = pairUnion armFields typeIds offsets count vectors (.scalar .float32 slots) ∧
      vectors.datatype = Vec3D.datatype ∧ offsets.length = typeIds.length ∧
      vectors.Reads (Vec3D.ofCell? true) values ∧
      decode c = unionValues typeName (unionEntries .dense typeIds offsets)
        (resolve values.toArray (slots.map Slot.get?).toArray) := by
  obtain ⟨typeIds, offsets, count, vectors, factors, hc, hvectors, hfactors, hoffsets⟩ :=
    eq_union_pair_of_datatype hreadable.aligned htype
  obtain ⟨slots, rfl⟩ := eq_scalar_of_datatype hfactors
  change c = pairUnion armFields typeIds offsets count vectors (.scalar .float32 slots) at hc
  subst hc
  obtain ⟨values, hvalues, hreads⟩ : ∃ values, Vec3D.codec.decode vectors = .ok values ∧
      vectors.Reads (Vec3D.ofCell? true) values :=
    Codec.exists_decode_vector (by decide)
      (hreadable.part (List.mem_cons_of_mem _ List.mem_cons_self)) hvectors
  refine ⟨typeIds, offsets, count, vectors, slots, values, rfl, hvectors, hoffsets, hreads, ?_⟩
  rw [decode_union, hvalues]
  rfl

theorem decodesTo (hreadable : c.Throughout Readable) (htype : c.datatype = datatype) :
    c.DecodesTo c.Pointed (ofCell? true) (decode c) := by
  obtain ⟨typeIds, offsets, count, vectors, slots, values, rfl, -, hoffsets, hreads, hdecode⟩ :=
    exists_decode_eq hreadable htype
  rw [hdecode]
  exact decodesTo_unionValues hoffsets DataType.noConfusion DataType.noConfusion hreads
    (reads_scalar slots)

/-- In a valid column each entry is read, and no null slot taken for a value. -/
theorem isSome_ofCell? (hvalid : c.Valid) (haddressable : c.Throughout Addressable)
    (htype : c.datatype = datatype) {row : Nat} (hrow : row < c.length) :
    (ofCell? false (c.cell row)).isSome = true := by
  obtain ⟨typeIds, offsets, count, vectors, slots, -, rfl, hvectors, hoffsets, -, -⟩ :=
    exists_decode_eq (hvalid.aligned.readable haddressable) htype
  have hpart : vectors ∈
      (pairUnion armFields typeIds offsets count vectors (.scalar .float32 slots)).parts := by
    simp [parts]
  obtain ⟨_, -, hreads⟩ :=
    Vec3D.faithful.decodes (hvalid.part hpart) (haddressable.part hpart) hvectors
  have hentry : row < (unionEntries .dense typeIds offsets).length :=
    length_unionEntries_dense hoffsets ▸ hrow
  refine isSome_unionPair?
    (Vec3D.faithful.legible hreads hvectors fun _ _ => DataType.noConfusion)
    (legible_scalar slots) hentry ?_
  exact resolves_of_required rfl rfl DataType.noConfusion DataType.noConfusion
    hvalid.complete.self hvalid.pointed.self hentry

theorem ofCell?_of_strict {cell : Cell} {value : Option Scale3D}
    (h : ofCell? false cell = some value) : ofCell? true cell = some value :=
  Cell.unionPair?_of_imp (fun _ _ => Vec3D.faithful.strict) (fun _ _ h => h) h

theorem faithful : codec.Faithful ofCell? :=
  .of_parts (fun hreadable htype => .inl (decodesTo hreadable htype)) isSome_ofCell?
    ofCell?_of_strict Cell.unionPair?_absent

end Scale3D

namespace TranslationRotationScale3D

open Column

/-- The transform that a cell holds. -/
def ofCell? (fill : Bool) : Cell → Option (Option TranslationRotationScale3D)
  | .null => some none
  | .struct [translation, rotation, scale, fromParent] => do
    let translation ← Vec3D.ofCell? fill translation
    let rotation ← Rotation3D.ofCell? fill rotation
    let scale ← Scale3D.ofCell? fill scale
    let fromParent ← fromParent.scalar? fill .bool
    return some ⟨translation, rotation, scale, fromParent⟩
  | _ => none

variable {c : Column}

/-- A column of the datatype has a column of each part and one of directions. -/
theorem eq_struct_of_typed (htyped : c.Throughout Typed) (htype : c.datatype = datatype) :
    ∃ length validity translations rotations scales slots,
      c = .struct fields length validity [translations, rotations, scales, .scalar .bool slots] ∧
      translations.datatype = Vec3D.datatype ∧ rotations.datatype = Rotation3D.datatype ∧
      scales.datatype = Scale3D.datatype := by
  obtain ⟨length, validity, children, hc, htypes⟩ := Column.eq_struct_of_typed htyped htype
  simp only [fields, List.map_cons, List.map_nil, List.map_eq_cons_iff,
    List.map_eq_nil_iff] at htypes
  obtain ⟨translations, _, rfl, htranslations, rotations, _, rfl, hrotations, scales, _, rfl,
    hscales, directions, _, rfl, hdirections, rfl⟩ := htypes
  obtain ⟨slots, rfl⟩ := eq_scalar_of_datatype hdirections
  exact ⟨length, validity, translations, rotations, scales, slots, hc, htranslations, hrotations,
    hscales⟩

/-- A readable column, taken apart. Its translations always decode, and its rows once the other
parts do. -/
theorem exists_decode_eq (hreadable : c.Throughout Readable) (htype : c.datatype = datatype) :
    ∃ length validity translations rotations scales slots values,
      c = .struct fields length validity [translations, rotations, scales, .scalar .bool slots] ∧
      translations.datatype = Vec3D.datatype ∧ rotations.datatype = Rotation3D.datatype ∧
      scales.datatype = Scale3D.datatype ∧ translations.length = length ∧
      rotations.length = length ∧ scales.length = length ∧ slots.length = length ∧
      translations.Reads (Vec3D.ofCell? true) values ∧
      decode c = (DecodeError.within (typeName ++ "#rotation") (Rotation3D.decode rotations)).bind
        fun rotationValues =>
          (DecodeError.within (typeName ++ "#scale") (Scale3D.decode scales)).bind
            fun scaleValues => (List.range length).mapM fun row =>
              decodeRow values.toArray rotationValues.toArray scaleValues.toArray slots.toArray
                (isPresent validity row) row := by
  obtain ⟨length, validity, translations, rotations, scales, slots, rfl, htranslations, hrotations,
    hscales⟩ := eq_struct_of_typed (hreadable.imp fun _ h => h.aligned.typed) htype
  obtain ⟨-, hlengths, hbits⟩ := hreadable.self.aligned
  obtain ⟨values, hvalues, hreads⟩ : ∃ values, Vec3D.codec.decode translations = .ok values ∧
      translations.Reads (Vec3D.ofCell? true) values :=
    Codec.exists_decode_vector (by decide) (hreadable.part List.mem_cons_self) htranslations
  refine ⟨length, validity, translations, rotations, scales, slots, values, rfl, htranslations,
    hrotations, hscales, hlengths _ (by simp), hlengths _ (by simp), hlengths _ (by simp),
    hlengths (.scalar .bool slots) (by simp), hreads, ?_⟩
  simp only [decode_struct, hvalues, readRows_eq_mapM hbits]
  rfl

/-- Once its parts are decoded, a column of transforms decodes, and to what its cells hold. -/
theorem exists_decodeRows {length : Nat} {validity : Option (List Bool)}
    {translations rotations scales : Column} {slots : List (Slot Scalar.bool.Value)}
    {translationValues : List (Option Vec3D)} {rotationValues : List (Option Rotation3D)}
    {scaleValues : List (Option Scale3D)}
    (htranslations : translations.Reads (Vec3D.ofCell? true) translationValues)
    (hrotations : rotations.Reads (Rotation3D.ofCell? true) rotationValues)
    (hscales : scales.Reads (Scale3D.ofCell? true) scaleValues)
    (htranslation : translations.length = length) (hrotation : rotations.length = length)
    (hscale : scales.length = length) (hslots : slots.length = length) :
    ∃ values, (List.range length).mapM (fun row =>
        decodeRow translationValues.toArray rotationValues.toArray scaleValues.toArray
          slots.toArray (isPresent validity row) row) = .ok values ∧
      (Column.struct fields length validity
        [translations, rotations, scales, .scalar .bool slots]).Reads (ofCell? true) values := by
  let c := Column.struct fields length validity
    [translations, rotations, scales, .scalar .bool slots]
  refine exists_mapM_range (c := c) fun row (hrow : row < length) => ?_
  rw [cell_struct]
  by_cases hpresent : isPresent validity row = true
  · obtain ⟨translation, htranslationItem, htranslationCell⟩ :=
      htranslations.itemAt (htranslation.symm ▸ hrow)
    obtain ⟨rotation, hrotationItem, hrotationCell⟩ := hrotations.itemAt (hrotation.symm ▸ hrow)
    obtain ⟨scale, hscaleItem, hscaleCell⟩ := hscales.itemAt (hscale.symm ▸ hrow)
    have hdirectionItem : itemAt slots.toArray row = .ok slots[row] := by simp [hslots, hrow]
    have hdirectionCell : ((scalar .bool slots).cell row).scalar? true .bool =
        some slots[row].raw := by
      rw [cell_scalar (hslots.symm ▸ hrow), Cell.scalar?_ofSlot]
    refine ⟨some ⟨translation, rotation, scale, slots[row].raw⟩, ?_, ?_⟩
    · simp [decodeRow, hpresent, htranslationItem, hrotationItem, hscaleItem, hdirectionItem, bind,
        Except.bind, pure, Except.pure]
    · simp [hpresent, ofCell?, htranslationCell, hrotationCell, hscaleCell, hdirectionCell]
  · exact ⟨none, by simp [decodeRow, hpresent], by simp [hpresent, ofCell?]⟩

/-- A column of transforms decodes to what its cells hold, unless a rotation or a scaling
fails to, be it in a row that is null. -/
theorem decode_cases (hreadable : c.Throughout Readable) (htype : c.datatype = datatype) :
    c.DecodesTo c.Pointed (ofCell? true) (decode c) ∨ codec.FailsInPart c := by
  obtain ⟨length, validity, translations, rotations, scales, slots, values, rfl, -, hrotationsType,
    hscalesType, htranslations, hrotations, hscales, hslots, hreads, hdecode⟩ :=
    exists_decode_eq hreadable htype
  have hrotationsPart : rotations ∈ parts (.struct fields length validity
      [translations, rotations, scales, .scalar .bool slots]) := by simp [parts]
  have hscalesPart : scales ∈ parts (.struct fields length validity
      [translations, rotations, scales, .scalar .bool slots]) := by simp [parts]
  cases hrotationValues : Rotation3D.decode rotations with
  | error e =>
      rw [hrotationValues] at hdecode
      exact .inr (.intro hrotationsPart Rotation3D.faithful hrotationsType hrotationValues hdecode)
  | ok rotationValues =>
      rw [hrotationValues] at hdecode
      cases hscaleValues : Scale3D.decode scales with
      | error e =>
          rw [hscaleValues] at hdecode
          exact .inr (.intro hscalesPart Scale3D.faithful hscalesType hscaleValues hdecode)
      | ok scaleValues =>
          rw [hscaleValues] at hdecode
          rw [hdecode]
          have hrotationReads := Rotation3D.faithful.reads (hreadable.part hrotationsPart)
            hrotationsType hrotationValues
          have hscaleReads := Scale3D.faithful.reads (hreadable.part hscalesPart) hscalesType
            hscaleValues
          obtain ⟨others, hothers, hreads⟩ := exists_decodeRows hreads hrotationReads hscaleReads
            htranslations hrotations hscales hslots
          exact .inl (.of_ok hothers hreads)

/-- In a valid column each row is read, and no null slot taken for a value. -/
theorem isSome_ofCell? (hvalid : c.Valid) (haddressable : c.Throughout Addressable)
    (htype : c.datatype = datatype) {row : Nat} (hrow : row < c.length) :
    (ofCell? false (c.cell row)).isSome = true := by
  obtain ⟨length, validity, translations, rotations, scales, slots, values, rfl,
    htranslationsType, hrotationsType, hscalesType, htranslations, hrotations, hscales, hslots, -,
    -⟩ := exists_decode_eq (hvalid.aligned.readable haddressable) htype
  let c := Column.struct fields length validity
    [translations, rotations, scales, .scalar .bool slots]
  have htranslationsPart : translations ∈ c.parts := by simp [c, parts]
  have hrotationsPart : rotations ∈ c.parts := by simp [c, parts]
  have hscalesPart : scales ∈ c.parts := by simp [c, parts]
  rw [cell_struct]
  by_cases hpresent : isPresent validity row = true
  · have hdirectionNull : ((scalar .bool slots).cell row).isNull = false :=
      hvalid.complete.self (.required "from_parent" (.scalar .bool), .scalar .bool slots)
        (by simp [fields]) rfl row hrow hpresent
    obtain ⟨_, -, htranslationReads⟩ := Vec3D.faithful.decodes
      (hvalid.part htranslationsPart) (haddressable.part htranslationsPart) htranslationsType
    obtain ⟨_, -, hrotationReads⟩ := Rotation3D.faithful.decodes
      (hvalid.part hrotationsPart) (haddressable.part hrotationsPart) hrotationsType
    obtain ⟨_, -, hscaleReads⟩ := Scale3D.faithful.decodes
      (hvalid.part hscalesPart) (haddressable.part hscalesPart) hscalesType
    obtain ⟨translation, -, htranslation⟩ := htranslationReads.itemAt (htranslations.symm ▸ hrow)
    obtain ⟨rotation, -, hrotation⟩ := hrotationReads.itemAt (hrotations.symm ▸ hrow)
    obtain ⟨scale, -, hscale⟩ := hscaleReads.itemAt (hscales.symm ▸ hrow)
    have hslot : row < slots.length := hslots.symm ▸ hrow
    have hdirection : ((scalar .bool slots).cell row).scalar? false .bool =
        some slots[row].raw := by
      rw [← Cell.scalar?_of_isNull_eq_false hdirectionNull, cell_scalar hslot, Cell.scalar?_ofSlot]
    simp [hpresent, ofCell?, htranslation, hrotation, hscale, hdirection]
  · simp [hpresent, ofCell?]

theorem ofCell?_of_strict {cell : Cell} {value : Option TranslationRotationScale3D}
    (h : ofCell? false cell = some value) : ofCell? true cell = some value := by
  fun_cases ofCell? false cell with
  | case1 => exact h
  | case2 translation rotation scale fromParent =>
      simp only [ofCell?, Option.bind_eq_bind, Option.bind_eq_some_iff] at h ⊢
      obtain ⟨t, htranslation, r, hrotation, s, hscale, f, hdirection, hvalue⟩ := h
      exact ⟨t, Vec3D.faithful.strict htranslation, r, Rotation3D.faithful.strict hrotation, s,
        Scale3D.faithful.strict hscale, f, Cell.scalar?_of_strict hdirection, hvalue⟩
  | case3 => simp_all [ofCell?]

/-- A transform is absent exactly if it is null. -/
theorem ofCell?_absent {fill : Bool} {cell : Cell} {value : Option TranslationRotationScale3D}
    (h : ofCell? fill cell = some value) : value = none ↔ cell.isAbsent = true := by
  fun_cases ofCell? fill cell with
  | case1 =>
      cases h
      simp [Cell.isAbsent]
  | case2 translation rotation scale fromParent =>
      simp only [ofCell?, Option.bind_eq_bind, Option.bind_eq_some_iff] at h
      obtain ⟨_, -, _, -, _, -, _, -, hvalue⟩ := h
      cases hvalue
      simp [Cell.isAbsent]
  | case3 => simp_all [ofCell?]

theorem faithful : codec.Faithful ofCell? :=
  .of_parts decode_cases isSome_ofCell? ofCell?_of_strict ofCell?_absent

end TranslationRotationScale3D

end SpatialColumns
