import SpatialColumns.Proofs.Codec.Restored
import SpatialColumns.Proofs.Codec.RoundTrip
import SpatialColumns.Proofs.Reading.Transform

/-!
# The datatype is checked at the gate

A decoder compares the whole datatype of a column with its own before it looks
at anything else. Inside, it looks for fields by name and for children of the
layouts that it expects. In a column of the datatype that was checked the names are
those of the declaration. Whoever makes a union does not compare its children with
its arms, though, so a child may still be of another datatype than its field declares,
and this is the one thing that a decoder still refuses.
-/

namespace SpatialColumns

variable {α β : Type}

namespace DecodeError

/-- Whether an error comes down to a column of another datatype. -/
def IsMismatch (e : DecodeError) : Prop :=
  ∃ expected got, e.root = .datatypeMismatch expected got

/-- Whether an error comes down to a column of another structure than expected. -/
def isStructural (e : DecodeError) : Bool :=
  match e.root with
  | datatypeMismatch .. => true
  | missingStructField .. => true
  | _ => false

theorem IsMismatch.isStructural {e : DecodeError} (h : e.IsMismatch) : e.isStructural = true := by
  obtain ⟨expected, got, hroot⟩ := h
  rw [DecodeError.isStructural, hroot]

end DecodeError

open Column

/-! ## Steps that refuse nothing but misfits -/

/-- The outcome of a step inside a column: if an error is one of structure, it is about
a child of the column that does not fit its field, and says what is wrong with it. -/
def Admitted (c : Column) (result : Except DecodeError α) : Prop :=
  ∀ e, result = .error e → e.isStructural = true →
    ∃ declared actual, e.root = .datatypeMismatch declared actual ∧ c.Misfit declared actual

namespace Admitted

variable {c child : Column} {result : Except DecodeError α}

theorem ok (a : α) : Admitted c (.ok a) := nofun

theorem error {e : DecodeError} (h : e.isStructural = false) :
    Admitted c (.error e : Except DecodeError α) := by
  intro e' herror hstructural
  cases herror
  rw [h] at hstructural
  cases hstructural

theorem within (location : String) (h : Admitted c result) :
    Admitted c (DecodeError.within location result) := by
  cases result with
  | error e =>
      intro e' herror hstructural
      cases herror
      exact h e rfl hstructural
  | ok a => exact ok a

theorem map (h : Admitted c result) (f : α → β) : Admitted c (result.map f) := by
  cases result with
  | error e =>
      intro e' herror
      cases herror
      exact h e rfl
  | ok a => exact ok (f a)

theorem bind {next : α → Except DecodeError β} (h : Admitted c result)
    (hnext : ∀ a, Admitted c (next a)) : Admitted c (result.bind next) := by
  cases result with
  | error e =>
      intro e' herror
      cases herror
      exact h e rfl
  | ok a => exact hnext a

theorem mapM {f : α → Except DecodeError β} (items : List α) (h : ∀ item, Admitted c (f item)) :
    Admitted c (items.mapM f) := by
  intro e herror
  obtain ⟨item, -, hitem⟩ := exists_of_mapM_error herror
  exact h item e hitem

/-- What does not fit in a child does not fit in the column either. -/
theorem of_part (hchild : child ∈ c.parts) (h : Admitted child result) : Admitted c result := by
  intro e herror hstructural
  obtain ⟨declared, actual, hroot, hmisfit⟩ := h e herror hstructural
  exact ⟨declared, actual, hroot, hmisfit.of_part hchild⟩

/-- A child is refused if it is of another datatype than its field declares. -/
theorem mismatch {entry : Field × Column} {expected : DataType} (hentry : entry ∈ c.fieldParts)
    (hfield : entry.1.type = expected) (hother : entry.2.datatype ≠ expected) :
    Admitted c (.error (.datatypeMismatch expected entry.2.datatype) : Except DecodeError α) := by
  subst hfield
  intro e herror _
  cases herror
  exact ⟨_, _, rfl, .of_entry hentry hother⟩

end Admitted

namespace Column

variable {c : Column}

theorem admitted_itemAt (items : Array α) (slot : Nat) : Admitted c (itemAt items slot) := by
  unfold itemAt
  split
  · exact .ok _
  · exact .error rfl

theorem admitted_readRow (slots : Array α) (n start : Nat) :
    Admitted c (readRow slots n start) := by
  by_cases hrow : (slots.extract start (start + n)).size = n
  · rw [readRow, dif_pos hrow]
    exact .ok _
  · rw [readRow, dif_neg hrow]
    exact .error rfl

theorem admitted_listRow (values : Array α) (n : Nat) (size : Int32) (present : Bool) (row : Nat) :
    Admitted c (listRow values n size present row) := by
  unfold listRow
  split
  · split
    · exact (admitted_readRow values n _).map some
    · exact .error rfl
  · exact .ok none

theorem admitted_readRows {length : Nat} {validity : Option (List Bool)}
    {read : Bool → Nat → Except DecodeError α} (h : ∀ present row, Admitted c (read present row)) :
    Admitted c (readRows length validity read) := by
  cases validity with
  | none =>
      rw [readRows, readFrom_zero]
      exact .mapM _ (h true)
  | some bits =>
      rw [readRows, readFrom_zero]
      apply Admitted.mapM
      intro row
      exact (admitted_itemAt _ row).bind fun present => h present row

theorem admitted_armValue (values : Array (Option α)) (slot : Nat) (name : String) :
    Admitted c (armValue values slot name) := by
  unfold armValue
  split
  · exact .ok _
  · exact .error rfl
  · exact .error rfl

/-- What one of two arms comes to, if a type id is the one's or the other's. -/
theorem admitted_of_pair {typeId first second : Int8} {x y value : Except DecodeError α}
    (hx : Admitted c x) (hy : Admitted c y)
    (h : (if typeId = first then some x else if typeId = second then some y else none) =
      some value) : Admitted c value := by
  split at h
  · cases h
    exact hx
  · split at h
    · cases h
      exact hy
    · cases h

theorem admitted_unionValues {name : String} {entries : List (Int8 × Nat)}
    {resolve : Int8 → Nat → Option (Except DecodeError α)}
    (h : ∀ typeId slot value, resolve typeId slot = some value → Admitted c value) :
    Admitted c (unionValues name entries resolve) := by
  apply Admitted.mapM
  rintro ⟨typeId, slot⟩
  by_cases hmarker : typeId = DenseUnion.nullMarkersTypeId
  · simp only [if_pos hmarker]
    exact .ok _
  · simp only [if_neg hmarker]
    cases hvalue : resolve typeId slot with
    | none => exact .error rfl
    | some value => exact (h typeId slot value hvalue).map some

/-- The slots of a child that its field declares to be a scalar. -/
theorem admitted_scalarSlots {kind : Scalar} (entry : Field × Column)
    (hentry : entry ∈ c.fieldParts) (hfield : entry.1.type = .scalar kind) :
    Admitted c (entry.2.scalarSlots kind) := by
  by_cases hscalar : entry.2.datatype = .scalar kind
  · obtain ⟨slots, hslots⟩ := eq_scalar_of_datatype hscalar
    rw [hslots, scalarSlots_scalar]
    exact .ok slots
  · unfold scalarSlots
    split
    · exact .ok _
    · exact .mismatch hentry hfield hscalar

/-- A column of another datatype is refused before anything else is done. -/
theorem bind_expect_of_ne {expected : DataType} {next : Unit → Except DecodeError α}
    (h : c.datatype ≠ expected) :
    (c.expect expected).bind next = .error (.datatypeMismatch expected c.datatype) := by
  rw [expect_of_ne h]
  rfl

end Column

/-! ## Codecs -/

/-- A codec that checks the datatype at the gate, where `locate` says of the error where it
lies, and refuses nothing but misfits once it is inside. -/
structure Codec.Gated (c : Codec α) (locate : DecodeError → DecodeError) : Prop where
  refused {column : Column} (hother : column.datatype ≠ c.datatype) :
    c.decode column = .error (locate (.datatypeMismatch c.datatype column.datatype))
  admitted {column : Column} (hpopulated : column.Throughout Populated)
    (htype : column.datatype = c.datatype) : Admitted column (c.decode column)

namespace Codec.Gated

variable {c : Codec α}

/-- A component says of every error that it lies in itself. -/
theorem component (h : c.Gated id) (name : String) (wrap : α → β) (unwrap : β → α) :
    (c.component name wrap unwrap).Gated (.context name) where
  refused hother := decode_component_of_error (h.refused hother)
  admitted hpopulated htype := ((h.admitted hpopulated htype).within name).map _

/-- What comes of a child that its field declares to be of the codec's datatype. -/
theorem decode_part (h : c.Gated id) {column : Column} (entry : Field × Column)
    (hpopulated : column.Throughout Populated) (hentry : entry ∈ column.fieldParts)
    (hfield : entry.1.type = c.datatype) : Admitted column (c.decode entry.2) := by
  have hpart : entry.2 ∈ column.parts := mem_parts_of_mem_fieldParts hentry
  by_cases htype : entry.2.datatype = c.datatype
  · exact (h.admitted (hpopulated.part hpart) htype).of_part hpart
  · rw [h.refused htype]
    exact .mismatch hentry hfield htype

/-- In a column whose children all fit their fields nothing is missing and nothing mismatches. -/
theorem isStructural_eq_false {locate : DecodeError → DecodeError} (h : c.Gated locate)
    {column : Column} (htyped : column.Throughout Typed) (htype : column.datatype = c.datatype)
    {e : DecodeError} (herror : c.decode column = .error e) : e.isStructural = false := by
  rw [Bool.eq_false_iff]
  intro hstructural
  obtain ⟨declared, actual, -, hmisfit⟩ :=
    h.admitted (htyped.imp fun _ => Typed.populated) htype e herror hstructural
  exact htyped.not_misfit declared actual hmisfit

end Codec.Gated

/-- A component decodes what the codec that it wraps does. -/
theorem Codec.exists_decode_component {c : Codec α} {name : String} {wrap : α → β}
    {unwrap : β → α} {column : Column} :
    (∃ values, c.decode column = .ok values) ↔
      ∃ values, (c.component name wrap unwrap).decode column = .ok values := by
  constructor
  · rintro ⟨values, hvalues⟩
    exact ⟨_, decode_component_of_ok hvalues⟩
  · rintro ⟨others, hothers⟩
    obtain ⟨values, hvalues, -⟩ := decode_component_eq_ok_iff.mp hothers
    exact ⟨values, hvalues⟩

theorem Codec.gated_vector {type : Primitive} {n builderSize elementSize : Nat} {name : String}
    {toVector : α → Vector type.Native n} {ofVector : Vector type.Native n → α} :
    (vector name type n builderSize elementSize toVector ofVector).Gated id where
  refused {column} hother := by
    have hexpect : column.expect (.listOf type n) = _ := expect_of_ne hother
    simp only [vector, fixedSizeListRows, hexpect]
    rfl
  admitted {column} _ htype := by
    have hexpect : column.expect (.listOf type n) = .ok () := expect_eq_ok_iff.mpr htype
    have hrows : Admitted column (fixedSizeListRows type n (.listOf type n) column) := by
      unfold fixedSizeListRows
      rw [hexpect]
      cases column with
      | fixedSizeList item size length validity child =>
          have hitem : item.type = .scalar (.primitive type) := by
            rw [(DataType.fixedSizeList.inj htype).1]
            rfl
          have hslots : Admitted (.fixedSizeList item size length validity child)
              (child.scalarSlots (.primitive type)) :=
            admitted_scalarSlots (item, child) List.mem_cons_self hitem
          exact hslots.bind fun slots => admitted_readRows (admitted_listRow _ n size)
      | _ => cases htype
    exact hrows.bind fun rows => .ok _

namespace RotationAxisAngle

theorem admitted_decodeRow {c : Column} (axes : Array (Option Vec3D))
    (angles : Array (Slot Scalar.float32.Value)) (present : Bool) (row : Nat) :
    Admitted c (decodeRow axes angles present row) := by
  cases present with
  | false => exact .ok none
  | true =>
      refine (admitted_itemAt axes row).bind fun axis => ?_
      cases axis with
      | none => exact .error rfl
      | some axis => exact (admitted_itemAt angles row).bind fun angle => .ok _

theorem gated : codec.Gated id where
  refused hother := bind_expect_of_ne hother
  admitted {column} hpopulated htype := by
    obtain ⟨length, validity, children, rfl, hcount⟩ :=
      eq_struct_of_populated hpopulated.self htype
    obtain ⟨axes, angles, rfl⟩ := List.length_eq_two.mp hcount
    let c := Column.struct fields length validity [axes, angles]
    have hentries : c.fieldParts = [(.required "axis" Vec3D.datatype, axes),
        (.required "angle" (.scalar .float32), angles)] := rfl
    have hvalues : Admitted c (Vec3D.codec.decode axes) :=
      Codec.gated_vector.decode_part (.required "axis" Vec3D.datatype, axes) hpopulated
        (by simp [hentries]) rfl
    have hslots : Admitted c (angles.scalarSlots .float32) :=
      admitted_scalarSlots (.required "angle" (.scalar .float32), angles) (by simp [hentries]) rfl
    -- Every field is found under its declared name, so no look-up is left.
    change Admitted c (decode (.struct fields length validity _))
    rw [decode_children]
    exact (hvalues.within _).bind fun values => hslots.bind fun slots =>
      admitted_readRows (admitted_decodeRow _ _)

end RotationAxisAngle

namespace Rotation3D

theorem gated : codec.Gated id where
  refused hother := bind_expect_of_ne hother
  admitted {column} hpopulated htype := by
    obtain ⟨typeIds, offsets, children, rfl, hcount⟩ :=
      eq_union_of_populated hpopulated.self htype
    obtain ⟨nulls, quaternions, axisAngles, rfl⟩ := List.length_eq_three.mp hcount
    let c := Column.union (DenseUnion.arms armFields) .dense typeIds offsets
      [nulls, quaternions, axisAngles]
    have hvalues : Admitted c (Quaternion.codec.decode quaternions) :=
      Codec.gated_vector.decode_part (.required "Quaternion" Quaternion.datatype, quaternions)
        hpopulated (List.mem_cons_of_mem _ List.mem_cons_self) rfl
    have hothers : Admitted c (RotationAxisAngle.codec.decode axisAngles) :=
      RotationAxisAngle.gated.decode_part
        (.required "AxisAngle" RotationAxisAngle.datatype, axisAngles) hpopulated
        (List.mem_cons_of_mem _ (List.mem_cons_of_mem _ List.mem_cons_self)) rfl
    change Admitted c (decode (.union (DenseUnion.arms armFields) .dense typeIds offsets _))
    rw [decode_union]
    refine (hvalues.within _).bind fun values => (hothers.within _).bind fun others => ?_
    apply admitted_unionValues
    intro typeId slot value hvalue
    exact admitted_of_pair ((admitted_armValue _ _ _).map _) ((admitted_armValue _ _ _).map _)
      hvalue

end Rotation3D

namespace Scale3D

theorem gated : codec.Gated id where
  refused hother := bind_expect_of_ne hother
  admitted {column} hpopulated htype := by
    obtain ⟨typeIds, offsets, children, rfl, hcount⟩ :=
      eq_union_of_populated hpopulated.self htype
    obtain ⟨nulls, vectors, factors, rfl⟩ := List.length_eq_three.mp hcount
    let c := Column.union (DenseUnion.arms armFields) .dense typeIds offsets
      [nulls, vectors, factors]
    have hvalues : Admitted c (Vec3D.codec.decode vectors) :=
      Codec.gated_vector.decode_part (.required "ThreeD" Vec3D.datatype, vectors) hpopulated
        (List.mem_cons_of_mem _ List.mem_cons_self) rfl
    have hslots : Admitted c (factors.scalarSlots .float32) :=
      admitted_scalarSlots (.required "Uniform" (.scalar .float32), factors)
        (List.mem_cons_of_mem _ (List.mem_cons_of_mem _ List.mem_cons_self)) rfl
    change Admitted c (decode (.union (DenseUnion.arms armFields) .dense typeIds offsets _))
    rw [decode_arms]
    refine (hvalues.within _).bind fun values => hslots.bind fun slots => ?_
    apply admitted_unionValues
    intro typeId slot value hvalue
    exact admitted_of_pair ((admitted_armValue _ _ _).map _) ((admitted_armValue _ _ _).map _)
      hvalue

end Scale3D

namespace TranslationRotationScale3D

theorem admitted_decodeRow {c : Column} (translations : Array (Option Vec3D))
    (rotations : Array (Option Rotation3D)) (scales : Array (Option Scale3D))
    (fromParents : Array (Slot Scalar.bool.Value)) (present : Bool) (row : Nat) :
    Admitted c (decodeRow translations rotations scales fromParents present row) := by
  cases present with
  | false => exact .ok none
  | true =>
      refine (admitted_itemAt translations row).bind fun translation => ?_
      refine (admitted_itemAt rotations row).bind fun rotation => ?_
      refine (admitted_itemAt scales row).bind fun scale => ?_
      exact (admitted_itemAt fromParents row).bind fun fromParent => .ok _

theorem gated : codec.Gated id where
  refused hother := bind_expect_of_ne hother
  admitted {column} hpopulated htype := by
    obtain ⟨length, validity, children, rfl, hcount⟩ :=
      eq_struct_of_populated hpopulated.self htype
    obtain ⟨translations, rotations, scales, directions, rfl⟩ :
        ∃ translations rotations scales directions,
          children = [translations, rotations, scales, directions] := by
      match children, hcount with
      | [translations, rotations, scales, directions], _ => exact ⟨_, _, _, _, rfl⟩
    let c := Column.struct fields length validity [translations, rotations, scales, directions]
    have hentries : c.fieldParts = [(.optional "translation" Vec3D.datatype, translations),
        (.optional "rotation" Rotation3D.datatype, rotations),
        (.optional "scale" Scale3D.datatype, scales),
        (.required "from_parent" (.scalar .bool), directions)] := rfl
    have htranslation : Admitted c (Vec3D.codec.decode translations) :=
      Codec.gated_vector.decode_part (.optional "translation" Vec3D.datatype, translations)
        hpopulated (by simp [hentries]) rfl
    have hrotation : Admitted c (Rotation3D.codec.decode rotations) :=
      Rotation3D.gated.decode_part (.optional "rotation" Rotation3D.datatype, rotations)
        hpopulated (by simp [hentries]) rfl
    have hscale : Admitted c (Scale3D.codec.decode scales) :=
      Scale3D.gated.decode_part (.optional "scale" Scale3D.datatype, scales)
        hpopulated (by simp [hentries]) rfl
    have hdirection : Admitted c (directions.scalarSlots .bool) :=
      admitted_scalarSlots (.required "from_parent" (.scalar .bool), directions)
        (by simp [hentries]) rfl
    change Admitted c (decode (.struct fields length validity _))
    rw [decode_children]
    refine (htranslation.within _).bind fun translationValues => ?_
    refine (hrotation.within _).bind fun rotationValues => ?_
    refine (hscale.within _).bind fun scaleValues => hdirection.bind fun slots => ?_
    exact admitted_readRows (admitted_decodeRow _ _ _ _)

end TranslationRotationScale3D

namespace Kind

/-- The kind that a component wraps, and any other kind itself. -/
def wrapped : Kind → Kind
  | transform3D => translationRotationScale3D
  | includedSpaceView => uuid
  | k => k

/-- A component adds its name to an error, and any other kind adds nothing. -/
def locate (k : Kind) (e : DecodeError) : DecodeError :=
  if k.wrapped = k then e else .context k.codec.name e

theorem gated_of_registered {k : Kind} (hk : k ∈ registered) : k.codec.Gated k.locate := by
  simp only [registered, List.mem_cons, List.not_mem_nil, or_false] at hk
  rcases hk with rfl | rfl | rfl | rfl | rfl | rfl | rfl | rfl | rfl
  · exact Codec.gated_vector
  · exact Codec.gated_vector
  · exact RotationAxisAngle.gated
  · exact Rotation3D.gated
  · exact Scale3D.gated
  · exact TranslationRotationScale3D.gated
  · exact Codec.gated_vector
  · exact TranslationRotationScale3D.gated.component _ _ _
  · exact Codec.gated_vector.component _ _ _

/-- Registered kinds of one datatype are one kind and components that wrap it. -/
theorem wrapped_eq_of_datatype : ∀ k ∈ registered, ∀ m ∈ registered,
    m.codec.datatype = k.codec.datatype → m.wrapped = k.wrapped := by
  decide

theorem isMismatch_locate (k : Kind) (expected got : DataType) :
    (k.locate (.datatypeMismatch expected got)).IsMismatch := by
  unfold locate
  split
  · exact ⟨expected, got, rfl⟩
  · exact ⟨expected, got, rfl⟩

/-- A component decodes what the kind that it wraps does. -/
theorem exists_decode_wrapped (k : Kind) (column : Column) :
    (∃ values, k.wrapped.codec.decode column = .ok values) ↔
      ∃ values, k.codec.decode column = .ok values := by
  cases k with
  | transform3D => exact Codec.exists_decode_component
  | includedSpaceView => exact Codec.exists_decode_component
  | _ => exact Iff.rfl

/-- What a kind writes has the kind's datatype and children that fit it, and all kinds of that
datatype decode it if it is addressable. -/
theorem decode_of_encodeOpt {k m : Kind} (hk : k ∈ registered) (hm : m ∈ registered)
    {values : List (Option k.Value)} {column : Column}
    (hencode : k.codec.encodeOpt values = .ok column) :
    column.datatype = k.codec.datatype ∧ column.Throughout Typed ∧
      (m.codec.datatype = k.codec.datatype → column.Throughout Addressable →
        ∃ others, m.codec.decode column = .ok others) := by
  obtain ⟨_, _, hsound⟩ := sound_of_registered hk
  have hkeeps := hsound.keeps_of_encodeOptIn hencode
  refine ⟨hkeeps.datatype, hkeeps.typed, fun hsame haddressable => ?_⟩
  rw [← exists_decode_wrapped, wrapped_eq_of_datatype k hk m hm hsame, exists_decode_wrapped]
  exact ⟨values, hkeeps.decode haddressable⟩

/-- Scalings without a row, over factors of 64 bits where the arm declares 32. -/
def wideFactors : Column :=
  .union (DenseUnion.arms Scale3D.armFields) .dense [] []
    [.null 0, .empty Vec3D.datatype, .scalar .float64 []]

/-- A union is made of children of other datatypes than its arms, and then has the datatype of
scalings, but it is not read as scalings. -/
theorem decode_gate_wideFactors :
    Column.union? (DenseUnion.arms Scale3D.armFields) .dense [] []
        [.null 0, .empty Vec3D.datatype, .scalar .float64 []] = .ok wideFactors ∧
      wideFactors.datatype = scale3D.codec.datatype ∧
      scale3D.codec.decode wideFactors =
        .error (.datatypeMismatch (.scalar .float32) (.scalar .float64)) :=
  ⟨rfl, rfl, rfl⟩

/-- The datatype of a column is compared as a whole, before anything else. A column of another
datatype, down to the names, nullability and metadata of all fields, is refused with both
datatypes, under the name of a component and under none otherwise. In a column of the
datatype that has a child for every field no field is missing, and nothing mismatches but a
child that is of another datatype than its field declares. If all children fit their fields,
nothing mismatches, whatever they hold and however long they are. So what one kind writes is
read by another without a mismatch if and only if both have the same datatype, and if all rows
of lists in it start in time it is read without any error. -/
theorem decode_gate {k : Kind} (hk : k ∈ registered) :
    (∀ column : Column, column.datatype ≠ k.codec.datatype →
      k.codec.decode column =
        .error (k.locate (.datatypeMismatch k.codec.datatype column.datatype))) ∧
    (∀ column : Column, column.Throughout Populated → column.datatype = k.codec.datatype →
      ∀ e, k.codec.decode column = .error e → e.isStructural = true →
        ∃ declared actual, e.root = .datatypeMismatch declared actual ∧
          column.Misfit declared actual) ∧
    (∀ column : Column, column.Throughout Typed →
      ((∃ e, k.codec.decode column = .error e ∧ e.IsMismatch) ↔
        column.datatype ≠ k.codec.datatype) ∧
      (column.datatype = k.codec.datatype →
        ∀ e, k.codec.decode column = .error e → e.isStructural = false)) ∧
    (∀ m ∈ registered, ∀ values column, k.codec.encodeOpt values = .ok column →
      ((∃ e, m.codec.decode column = .error e ∧ e.IsMismatch) ↔
        m.codec.datatype ≠ k.codec.datatype) ∧
      (m.codec.datatype = k.codec.datatype → column.Throughout Addressable →
        ∃ others, m.codec.decode column = .ok others)) ∧
    ∀ values, values.length ≤ 2 ^ 31 - 1 → ∃ column, k.codec.encodeOpt values = .ok column := by
  -- Where all children fit, the mismatches are those of the gate.
  have hmismatch : ∀ m ∈ registered, ∀ column : Column, column.Throughout Typed →
      ((∃ e, m.codec.decode column = .error e ∧ e.IsMismatch) ↔
        column.datatype ≠ m.codec.datatype) := by
    intro m hm column htyped
    have hgate := gated_of_registered hm
    constructor
    · rintro ⟨e, herror, hmismatch⟩ hsame
      have hinside := hgate.isStructural_eq_false htyped hsame herror
      rw [hmismatch.isStructural] at hinside
      cases hinside
    · intro hother
      exact ⟨_, hgate.refused hother, isMismatch_locate ..⟩
  have hgate := gated_of_registered hk
  refine ⟨fun column hother => hgate.refused hother, fun column => hgate.admitted, ?_, ?_, ?_⟩
  · exact fun column htyped => ⟨hmismatch k hk column htyped,
      fun htype e => hgate.isStructural_eq_false htyped htype⟩
  · intro m hm values column hencode
    obtain ⟨htype, htyped, hreads⟩ := decode_of_encodeOpt hk hm hencode
    refine ⟨?_, hreads⟩
    rw [hmismatch m hm column htyped, htype]
    exact ne_comm
  · intro values hlength
    obtain ⟨_, column, -, hencode⟩ := exists_encodeOpt_eq hk
    exact ⟨column values, hencode values hlength⟩

/-- A column without rows in which a field carries metadata that is not declared. -/
def markedTransforms : Column :=
  .empty (.struct ((Field.optional "translation" Vec3D.datatype).withMetadata [("unit", "m")] ::
    TranslationRotationScale3D.fields.tail))

/-- The metadata alone makes it a column of another datatype, whereas identifiers are read as
the component that wraps them. -/
theorem decode_gate_markedTransforms :
    transform3D.codec.decode markedTransforms =
      .error (.context "rerun.components.Transform3D"
        (.datatypeMismatch TranslationRotationScale3D.datatype markedTransforms.datatype)) ∧
    (∃ e, transform3D.codec.decode markedTransforms = .error e ∧ e.IsMismatch) ∧
    ∃ column, uuid.codec.encodeOpt [some .nil, none] = .ok column ∧
      (∃ e, vec3D.codec.decode column = .error e ∧ e.IsMismatch) ∧
      ¬∃ e, includedSpaceView.codec.decode column = .error e ∧ e.IsMismatch := by
  have htyped : markedTransforms.Throughout Typed := by decide
  have hother : markedTransforms.datatype ≠ transform3D.codec.datatype := by decide
  obtain ⟨hrefused, -, hinside, -, -⟩ := decode_gate (k := transform3D) (by decide)
  obtain ⟨-, -, -, hreads, hwrites⟩ := decode_gate (k := uuid) (by decide)
  obtain ⟨column, hencode⟩ := hwrites [some .nil, none] (by decide)
  obtain ⟨hvectors, -⟩ := hreads vec3D (by decide) _ _ hencode
  obtain ⟨hviews, -⟩ := hreads includedSpaceView (by decide) _ _ hencode
  exact ⟨hrefused _ hother, (hinside _ htyped).1.mpr hother, column, hencode,
    hvectors.mpr (by decide), fun hmismatch => hviews.mp hmismatch rfl⟩

end Kind

end SpatialColumns
