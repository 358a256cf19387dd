import SpatialColumns.Proofs.Reading.Registered

/-!
# What lies below null rows

Columns that hold the same cells, down to the bits under null slots, can differ below
their null rows. A column of rotations
about an axis decodes the same whatever lies there. A transform's rotations and scalings
are decoded before anything is known of the rows that they belong to. So a column of
transforms decodes the same only as long as all entries below its null rows resolve: one
that does not fails in a row that holds nothing.
-/

namespace SpatialColumns

variable {α β γ δ : Type}

/-! ## Outcomes that go wrong alike -/

/-- Two outcomes that are the same error, or none. -/
inductive Alike : Except DecodeError α → Except DecodeError β → Prop where
  | error (e : DecodeError) : Alike (.error e) (.error e)
  | ok (x : α) (y : β) : Alike (.ok x) (.ok y)

namespace Alike

variable {x : Except DecodeError α} {y : Except DecodeError β}

theorem refl (x : Except DecodeError α) : Alike x x := by
  cases x with
  | error e => exact .error e
  | ok a => exact .ok a a

theorem within (h : Alike x y) (location : String) :
    Alike (DecodeError.within location x) (DecodeError.within location y) := by
  cases h with
  | error e => exact .error _
  | ok a b => exact .ok a b

theorem bind {f : α → Except DecodeError γ} {g : β → Except DecodeError δ} (h : Alike x y)
    (hnext : ∀ a b, x = .ok a → y = .ok b → Alike (f a) (g b)) : Alike (x.bind f) (y.bind g) := by
  cases h with
  | error e => exact .error e
  | ok a b => exact hnext a b rfl rfl

/-- Lists whose items go wrong alike go wrong at the same item. -/
theorem mapM {f : γ → Except DecodeError α} {g : δ → Except DecodeError β} {xs : List γ}
    {ys : List δ} (h : List.Forall₂ (fun x y => Alike (f x) (g y)) xs ys) :
    Alike (xs.mapM f) (ys.mapM g) := by
  induction h with
  | nil => exact .ok [] []
  | cons hhead _ ih =>
      rw [List.mapM_cons, List.mapM_cons]
      refine hhead.bind fun a b _ _ => ih.bind fun as bs _ _ => ?_
      exact .ok (a :: as) (b :: bs)

end Alike

namespace Column

/-! ## Columns that agree in the rows that are present -/

/-- The columns that a union keeps its values in. -/
def arms : Column → List Column
  | union _ _ _ _ children => children
  | _ => []

/-- Columns that hold the same cells, and of which the unions among the children keep the
same arms. Below rows that are null, the children may differ. -/
structure SameRows (a b : Column) : Prop where
  length : a.length = b.length
  cell : ∀ row < a.length, a.cell row = b.cell row
  arms : a.parts.map arms = b.parts.map arms

/-- Below rows that are null, every entry is a null marker or points at a value. -/
def MaskedResolve (c : Column) : Prop :=
  ∀ row < c.length, (c.cell row).isNull = true → ∀ part ∈ c.parts, (part.cell row).resolves = true

instance : DecidablePred MaskedResolve := fun c =>
  inferInstanceAs (Decidable (∀ row < c.length, _ → ∀ part ∈ c.parts, _ = true))

/-- Only an entry of a union can fail to resolve. -/
theorem resolves_cell {c : Column} (h : ∀ arms mode, c.datatype ≠ .union arms mode) (row : Nat) :
    (c.cell row).resolves = true := by
  cases c with
  | union arms mode => exact absurd rfl (h arms mode)
  | scalar kind slots =>
      rw [cell]
      cases slots[row]? with
      | none => rfl
      | some slot => cases slot <;> rfl
  | _ =>
      rw [cell]
      try split
      all_goals rfl

/-- Rows of structs that hold the same are both null, or their children hold the same. -/
theorem cell_struct_eq {fields fields' : List Field} {length length' row : Nat}
    {validity validity' : Option (List Bool)} {children children' : List Column}
    (h : (struct fields length validity children).cell row =
      (struct fields' length' validity' children').cell row) :
    isPresent validity row = isPresent validity' row ∧
      (isPresent validity row = true →
        children.map (Column.cell · row) = children'.map (Column.cell · row)) := by
  rw [cell_struct, cell_struct] at h
  cases hpresent : isPresent validity row <;> cases hpresent' : isPresent validity' row <;>
    simp_all

/-- Where entries below null rows resolve, the children of structs that hold the same cells
differ only in what resolves. -/
theorem SameRows.swappable {fields fields' : List Field} {length length' row : Nat}
    {validity validity' : Option (List Bool)} {children children' : List Column}
    (hsame : (struct fields length validity children).SameRows
      (struct fields' length' validity' children'))
    (ha : (struct fields length validity children).MaskedResolve)
    (hb : (struct fields' length' validity' children').MaskedResolve) (hrow : row < length) :
    List.Forall₂ (fun x y => (Column.cell x row).Swappable (Column.cell y row)) children
      children' := by
  have hcount : children.length = children'.length := by
    simpa [parts] using congrArg List.length hsame.arms
  have hcell := hsame.cell row hrow
  refine List.forall₂_iff_get.mpr ⟨hcount, fun i hi hi' => ?_⟩
  cases hpresent : isPresent validity row with
  | true =>
      have hcells := (cell_struct_eq hcell).2 hpresent
      have hchild := congrArg (·[i]?) hcells
      exact .inl (by simpa [hi, hi'] using hchild)
  | false =>
      have hnull : (Column.cell (struct fields length validity children) row).isNull = true := by
        rw [cell_struct, hpresent]
        rfl
      have hlength : length = length' := hsame.length
      exact .inr ⟨ha row hrow hnull _ (List.getElem_mem hi),
        hb row (hlength ▸ hrow) (hcell ▸ hnull) _ (List.getElem_mem hi')⟩

theorem Reads.of_same {read : Cell → Option (Option α)} {a b : Column} {values : List (Option α)}
    (hsame : a.SameRows b) (h : a.Reads read values) : b.Reads read values where
  length := h.length.trans hsame.length
  row row hrow := by
    rw [← hsame.cell row (h.length ▸ hrow)]
    exact h.row row hrow

/-! ## Unions with the same arms -/

variable {name : String} {wrapFirst : α → γ} {wrapSecond : β → γ}
  {readFirst : Cell → Option (Option α)} {readSecond : Cell → Option (Option β)}
  {firsts : List (Option α)} {seconds : List (Option β)} {first second : Field}
  {typeIds typeIds' : List Int8} {offsets offsets' : List Int32} {count : Nat}
  {firstArm secondArm : Column}

/-- An entry that resolves decodes, if its arm reads a value wherever it has one. -/
theorem exists_of_resolves (hfirsts : firstArm.Reads readFirst firsts)
    (hseconds : secondArm.Reads readSecond seconds)
    (hfirst : firstArm.Legible readFirst) (hsecond : secondArm.Legible readSecond)
    {row : Nat} (hrow : row < (unionEntries .dense typeIds offsets).length)
    (hresolves : ((pairUnion [first, second] typeIds offsets count firstArm secondArm).cell
      row).resolves = true) :
    ∃ value, entryValue name (resolvePair name wrapFirst wrapSecond firsts.toArray seconds.toArray)
      (unionEntries .dense typeIds offsets)[row] = .ok value := by
  have hsome : (Cell.unionPair? wrapFirst wrapSecond readFirst readSecond _).isSome = true :=
    isSome_unionPair? hfirst hsecond hrow hresolves
  obtain ⟨value, hvalue⟩ := Option.isSome_iff_exists.mp hsome
  rw [cell_union_pair hrow] at hvalue
  exact ⟨value, (agrees_entry hfirsts hseconds _ _).ok_iff.mpr hvalue⟩

/-- Unions that keep the same arms go wrong at the same entry, if they hold the same entries
but for some that resolve in both. -/
theorem alike_unionValues (hfirsts : firstArm.Reads readFirst firsts)
    (hseconds : secondArm.Reads readSecond seconds)
    (hfirst : firstArm.Legible readFirst) (hsecond : secondArm.Legible readSecond)
    (hoffsets : offsets.length = typeIds.length) (hoffsets' : offsets'.length = typeIds'.length)
    (hlength : typeIds.length = typeIds'.length)
    (hrows : ∀ row < typeIds.length,
      ((pairUnion [first, second] typeIds offsets count firstArm secondArm).cell row).Swappable
      ((pairUnion [first, second] typeIds' offsets' count firstArm secondArm).cell row)) :
    let resolve := resolvePair name wrapFirst wrapSecond firsts.toArray seconds.toArray
    Alike (unionValues name (unionEntries .dense typeIds offsets) resolve)
      (unionValues name (unionEntries .dense typeIds' offsets') resolve) := by
  intro resolve
  rw [unionValues_eq_mapM, unionValues_eq_mapM]
  have hcount : (unionEntries .dense typeIds offsets).length =
      (unionEntries .dense typeIds' offsets').length := by
    rw [length_unionEntries_dense hoffsets, length_unionEntries_dense hoffsets', hlength]
  refine Alike.mapM (List.forall₂_iff_get.mpr ⟨hcount, fun row hrow hrow' => ?_⟩)
  rcases hrows row (length_unionEntries_dense hoffsets ▸ hrow) with hsame | ⟨ha, hb⟩
  · rw [cell_union_pair hrow, cell_union_pair hrow', Cell.entry.injEq] at hsame
    have hentry : (unionEntries .dense typeIds offsets)[row] =
        (unionEntries .dense typeIds' offsets')[row] := Prod.ext hsame.1 hsame.2.1
    rw [List.get_eq_getElem, List.get_eq_getElem, hentry]
    exact .refl _
  · obtain ⟨x, hx⟩ := exists_of_resolves hfirsts hseconds hfirst hsecond hrow ha
    obtain ⟨y, hy⟩ := exists_of_resolves hfirsts hseconds hfirst hsecond hrow' hb
    rw [List.get_eq_getElem, List.get_eq_getElem, hx, hy]
    exact .ok x y

end Column

/-! ## Rotations and scalings -/

open Column

theorem Rotation3D.alike {a b : Column} (ha : a.Throughout Readable) (hb : b.Throughout Readable)
    (hatype : a.datatype = datatype) (hbtype : b.datatype = datatype) (harms : a.arms = b.arms)
    (hlength : a.length = b.length)
    (hrows : ∀ row < a.length, (a.cell row).Swappable (b.cell row)) :
    Alike (decode a) (decode b) := by
  obtain ⟨typeIds, offsets, count, quaternions, axisAngles, values, rfl, hquaternions, haxisAngles,
    hoffsets, hvalues, hdecode⟩ := exists_decode_eq ha hatype
  obtain ⟨typeIds', offsets', count', quaternions', axisAngles', values', rfl, -, -, hoffsets',
    hvalues', hdecode'⟩ := exists_decode_eq hb hbtype
  simp only [arms, List.cons.injEq, null.injEq, and_true] at harms
  obtain ⟨rfl, rfl, rfl⟩ := harms
  obtain rfl := hvalues.unique hvalues'
  rw [hdecode, hdecode']
  cases hothers : RotationAxisAngle.decode axisAngles with
  | error e => exact .error _
  | ok others =>
      have hreads := RotationAxisAngle.faithful.reads (ha.part (by simp [parts])) haxisAngles
        hothers
      exact alike_unionValues hvalues hreads
        (Quaternion.faithful.legible hvalues hquaternions fun _ _ => DataType.noConfusion)
        (RotationAxisAngle.faithful.legible hreads haxisAngles fun _ _ => DataType.noConfusion)
        hoffsets hoffsets' hlength hrows

theorem Scale3D.alike {a b : Column} (ha : a.Throughout Readable) (hb : b.Throughout Readable)
    (hatype : a.datatype = datatype) (hbtype : b.datatype = datatype) (harms : a.arms = b.arms)
    (hlength : a.length = b.length)
    (hrows : ∀ row < a.length, (a.cell row).Swappable (b.cell row)) :
    Alike (decode a) (decode b) := by
  obtain ⟨typeIds, offsets, count, vectors, slots, values, rfl, hvectors, hoffsets, hvalues,
    hdecode⟩ := exists_decode_eq ha hatype
  obtain ⟨typeIds', offsets', count', vectors', slots', values', rfl, -, hoffsets', hvalues',
    hdecode'⟩ := exists_decode_eq hb hbtype
  simp only [arms, List.cons.injEq, null.injEq, scalar.injEq, heq_eq_eq, true_and, and_true]
    at harms
  obtain ⟨rfl, rfl, rfl⟩ := harms
  obtain rfl := hvalues.unique hvalues'
  rw [hdecode, hdecode']
  exact alike_unionValues hvalues (reads_scalar slots)
    (Vec3D.faithful.legible hvalues hvectors fun _ _ => DataType.noConfusion)
    (legible_scalar slots) hoffsets hoffsets' hlength hrows

/-! ## Codecs -/

variable {c : Codec α}

/-- Columns that hold the same cells decode to the same if they go wrong alike. -/
theorem Codec.Faithful.decode_eq {read : Bool → Cell → Option (Option α)} (h : c.Faithful read)
    {a b : Column} (ha : a.Throughout Readable) (hb : b.Throughout Readable)
    (hatype : a.datatype = c.datatype) (hbtype : b.datatype = c.datatype) (hsame : a.SameRows b)
    (halike : Alike (c.decode a) (c.decode b)) : c.decode a = c.decode b := by
  cases hx : c.decode a with
  | error e =>
      cases hy : c.decode b with
      | error e' =>
          rw [hx, hy] at halike
          cases halike
          rfl
      | ok others =>
          rw [hx, hy] at halike
          cases halike
  | ok values =>
      cases hy : c.decode b with
      | error e =>
          rw [hx, hy] at halike
          cases halike
      | ok others =>
          have hreads := (h.reads ha hatype hx).of_same hsame
          exact congrArg Except.ok (hreads.unique (h.reads hb hbtype hy))

theorem Rotation3D.resolves_of_ofCell? {fill : Bool} {cell : Cell} {value : Option Rotation3D}
    (h : ofCell? fill cell = some value) : cell.resolves = true :=
  Cell.resolves_of_unionPair? (fun _ _ => Quaternion.faithful.isNull_of_some)
    (fun _ _ => RotationAxisAngle.faithful.isNull_of_some) h

theorem Scale3D.resolves_of_ofCell? {fill : Bool} {cell : Cell} {value : Option Scale3D}
    (h : ofCell? fill cell = some value) : cell.resolves = true := by
  refine Cell.resolves_of_unionPair? ?_ ?_ h
  · exact fun _ _ => Vec3D.faithful.isNull_of_some
  · exact fun _ _ => Cell.isNull_of_optional?

/-- A codec for which nothing below a null row matters but that entries resolve. -/
structure Codec.MasksNulls (c : Codec α) : Prop where
  resolves {column : Column} {values : List (Option α)} (hreadable : column.Throughout Readable)
    (htype : column.datatype = c.datatype) (hdecode : c.decode column = .ok values) :
    column.MaskedResolve
  decode_eq {a b : Column} (ha : a.Throughout Readable) (hb : b.Throughout Readable)
    (hatype : a.datatype = c.datatype) (hbtype : b.datatype = c.datatype) (hsame : a.SameRows b)
    (haresolves : a.MaskedResolve) (hbresolves : b.MaskedResolve) : c.decode a = c.decode b

namespace Codec.MasksNulls

variable {c : Codec α}

/-- Wrapping the values of a codec changes nothing below null rows. -/
theorem component (h : c.MasksNulls) {name : String} {wrap : α → β} {unwrap : β → α} :
    (c.component name wrap unwrap).MasksNulls where
  resolves {column values} hreadable htype hdecode := by
    obtain ⟨inner, hinner, -⟩ := decode_component_eq_ok_iff.mp hdecode
    exact h.resolves hreadable htype hinner
  decode_eq ha hb hatype hbtype hsame haresolves hbresolves := by
    simp only [Codec.component, h.decode_eq ha hb hatype hbtype hsame haresolves hbresolves]

/-- Of two columns that hold the same cells, both decode if one does and the entries of the
other one resolve. -/
theorem decode_eq_ok_iff (h : c.MasksNulls) {a b : Column} {values : List (Option α)}
    (ha : a.Throughout Readable) (hb : b.Throughout Readable) (hatype : a.datatype = c.datatype)
    (hbtype : b.datatype = c.datatype) (hsame : a.SameRows b) (hdecode : c.decode a = .ok values) :
    c.decode b = .ok values ↔ b.MaskedResolve := by
  constructor
  · exact h.resolves hb hbtype
  · intro hresolves
    rw [← hdecode]
    exact (h.decode_eq ha hb hatype hbtype hsame (h.resolves ha hatype hdecode) hresolves).symm

end Codec.MasksNulls

namespace RotationAxisAngle

/-- No child of a column of rotations about an axis has entries. -/
theorem maskedResolve {c : Column} (hreadable : c.Throughout Readable)
    (htype : c.datatype = datatype) : c.MaskedResolve := by
  obtain ⟨length, validity, axes, slots, values, rfl, haxes, -⟩ := exists_decode_eq hreadable htype
  intro row _ _ part hpart
  simp only [parts, List.mem_cons, List.not_mem_nil, or_false] at hpart
  rcases hpart with rfl | rfl
  · exact resolves_cell (by simp [haxes, Vec3D.datatype, DataType.listOf]) row
  · exact resolves_cell (fun _ _ => DataType.noConfusion) row

/-- A column of rotations about an axis decodes to the same as any other that holds the same
cells, also if they do not decode. -/
theorem decode_eq {a b : Column} (ha : a.Throughout Readable) (hb : b.Throughout Readable)
    (hatype : a.datatype = datatype) (hbtype : b.datatype = datatype) (hsame : a.SameRows b) :
    decode a = decode b := by
  obtain ⟨length, validity, axes, slots, values, rfl, -, haxes, hslots, hreads, hdecode⟩ :=
    exists_decode_eq ha hatype
  obtain ⟨length', validity', axes', slots', values', rfl, -, haxes', hslots', hreads', hdecode'⟩ :=
    exists_decode_eq hb hbtype
  obtain rfl : length = length' := hsame.length
  rw [hdecode, hdecode']
  refine mapM_congr fun row hrow => ?_
  have hrow : row < length := List.mem_range.mp hrow
  obtain ⟨hpresence, hcells⟩ := cell_struct_eq (hsame.cell row hrow)
  rw [← hpresence]
  cases hpresent : isPresent validity row with
  | false => rfl
  | true =>
      obtain ⟨haxis, hangle⟩ : axes.cell row = axes'.cell row ∧
          (scalar .float32 slots).cell row = (scalar .float32 slots').cell row := by
        simpa using hcells hpresent
      obtain ⟨found, hitem, hread⟩ := hreads.itemAt (haxes.symm ▸ hrow)
      obtain ⟨found', hitem', hread'⟩ := hreads'.itemAt (haxes'.symm ▸ hrow)
      obtain rfl : found = found' := Option.some.inj (by rw [← hread, ← hread', haxis])
      have hslot : itemAt slots.toArray row = .ok slots[row] := by simp [hslots, hrow]
      have hslot' : itemAt slots'.toArray row = .ok slots'[row] := by simp [hslots', hrow]
      have hraw : slots[row].raw = slots'[row].raw := by
        rw [cell_scalar (hslots.symm ▸ hrow), cell_scalar (hslots'.symm ▸ hrow)] at hangle
        exact Option.some.inj (by rw [← Cell.scalar?_ofSlot, ← Cell.scalar?_ofSlot, hangle])
      cases found with
      | none => simp [decodeRow, hitem, hitem', bind, Except.bind]
      | some found =>
          simp [decodeRow, hitem, hitem', hslot, hslot', hraw, bind, Except.bind]

theorem masksNulls : codec.MasksNulls where
  resolves hreadable htype _ := maskedResolve hreadable htype
  decode_eq ha hb hatype hbtype hsame _ _ := decode_eq ha hb hatype hbtype hsame

end RotationAxisAngle

namespace TranslationRotationScale3D

/-- Where a column of transforms decodes, the entries of its rotations and scalings resolve in
all rows. -/
theorem maskedResolve {c : Column} {values : List (Option TranslationRotationScale3D)}
    (hreadable : c.Throughout Readable) (htype : c.datatype = datatype)
    (hdecode : decode c = .ok values) : c.MaskedResolve := by
  obtain ⟨length, validity, translations, rotations, scales, slots, _, rfl, htranslations,
    hrotations, hscales, -, hrotationsLength, hscalesLength, -, -, heq⟩ :=
    exists_decode_eq hreadable htype
  rw [heq] at hdecode
  cases hrotationValues : Rotation3D.decode rotations with
  | error e => simp [hrotationValues, Except.bind] at hdecode
  | ok rotationValues =>
      cases hscaleValues : Scale3D.decode scales with
      | error e => simp [hrotationValues, hscaleValues, Except.bind] at hdecode
      | ok scaleValues =>
          have hrotationReads := Rotation3D.faithful.reads (hreadable.part (by simp [parts]))
            hrotations hrotationValues
          have hscaleReads := Scale3D.faithful.reads (hreadable.part (by simp [parts]))
            hscales hscaleValues
          intro row hrow _ part hpart
          have hrow : row < length := hrow
          simp only [parts, List.mem_cons, List.not_mem_nil, or_false] at hpart
          rcases hpart with rfl | rfl | rfl | rfl
          · exact resolves_cell (by simp [htranslations, Vec3D.datatype, DataType.listOf]) row
          · obtain ⟨_, -, hread⟩ := hrotationReads.itemAt (hrotationsLength.symm ▸ hrow)
            exact Rotation3D.resolves_of_ofCell? hread
          · obtain ⟨_, -, hread⟩ := hscaleReads.itemAt (hscalesLength.symm ▸ hrow)
            exact Scale3D.resolves_of_ofCell? hread
          · exact resolves_cell (fun _ _ => DataType.noConfusion) row

/-- Columns of transforms that hold the same cells go wrong alike, if what lies below their null
rows resolves. -/
theorem alike {a b : Column} (ha : a.Throughout Readable) (hb : b.Throughout Readable)
    (hatype : a.datatype = datatype) (hbtype : b.datatype = datatype) (hsame : a.SameRows b)
    (haresolves : a.MaskedResolve) (hbresolves : b.MaskedResolve) :
    Alike (decode a) (decode b) := by
  obtain ⟨length, validity, translations, rotations, scales, slots, values, rfl, -, hrotations,
    hscales, htranslationsLength, hrotationsLength, hscalesLength, hslots, hreads, hdecode⟩ :=
    exists_decode_eq ha hatype
  obtain ⟨length', validity', translations', rotations', scales', slots', values', rfl, -,
    hrotations', hscales', htranslationsLength', hrotationsLength', hscalesLength', hslots',
    hreads', hdecode'⟩ := exists_decode_eq hb hbtype
  obtain rfl : length = length' := hsame.length
  have harms := hsame.arms
  simp only [parts, List.map_cons, List.map_nil, List.cons.injEq, and_true] at harms
  obtain ⟨-, hrotationArms, hscaleArms, -⟩ := harms
  have hrows (row : Nat) (hrow : row < length) :
      (rotations.cell row).Swappable (rotations'.cell row) ∧
        (scales.cell row).Swappable (scales'.cell row) := by
    have hchildren := hsame.swappable haresolves hbresolves hrow
    simp only [List.forall₂_cons] at hchildren
    exact ⟨hchildren.2.1, hchildren.2.2.1⟩
  have hrotation := Rotation3D.alike (ha.part (by simp [parts])) (hb.part (by simp [parts]))
    hrotations hrotations' hrotationArms (hrotationsLength.trans hrotationsLength'.symm)
    fun row hrow => (hrows row (hrotationsLength ▸ hrow)).1
  have hscale := Scale3D.alike (ha.part (by simp [parts])) (hb.part (by simp [parts]))
    hscales hscales' hscaleArms (hscalesLength.trans hscalesLength'.symm)
    fun row hrow => (hrows row (hscalesLength ▸ hrow)).2
  rw [hdecode, hdecode']
  refine (hrotation.within _).bind fun rotationValues rotationValues' hx hx' => ?_
  refine (hscale.within _).bind fun scaleValues scaleValues' hy hy' => ?_
  rw [DecodeError.within_eq_ok_iff] at hx hx' hy hy'
  obtain ⟨others, hothers, -⟩ := exists_decodeRows hreads
    (Rotation3D.faithful.reads (ha.part (by simp [parts])) hrotations hx)
    (Scale3D.faithful.reads (ha.part (by simp [parts])) hscales hy)
    htranslationsLength hrotationsLength hscalesLength hslots
  obtain ⟨others', hothers', -⟩ := exists_decodeRows hreads'
    (Rotation3D.faithful.reads (hb.part (by simp [parts])) hrotations' hx')
    (Scale3D.faithful.reads (hb.part (by simp [parts])) hscales' hy')
    htranslationsLength' hrotationsLength' hscalesLength' hslots'
  rw [hothers, hothers']
  exact .ok others others'

theorem masksNulls : codec.MasksNulls where
  resolves := maskedResolve
  decode_eq ha hb hatype hbtype hsame haresolves hbresolves :=
    faithful.decode_eq ha hb hatype hbtype hsame
      (alike ha hb hatype hbtype hsame haresolves hbresolves)

end TranslationRotationScale3D

namespace Kind

/-- The kinds that a struct stores. -/
def structs : List Kind := [rotationAxisAngle, translationRotationScale3D, transform3D]

theorem masksNulls_of_structs {k : Kind} (hk : k ∈ structs) : k.codec.MasksNulls := by
  simp only [structs, List.mem_cons, List.not_mem_nil, or_false] at hk
  rcases hk with rfl | rfl | rfl
  · exact RotationAxisAngle.masksNulls
  · exact TranslationRotationScale3D.masksNulls
  · exact TranslationRotationScale3D.masksNulls.component

/-- Two columns of structs that hold the same cells, and whose unions keep the same arms,
decode to the same if they are rotations about an axis, or if the entries below their null
rows resolve. If one of them decodes, the other does if and only if its entries below null
rows resolve. All parts fit their fields, and all rows of lists start in time. -/
theorem decode_of_sameRows {k : Kind} (hk : k ∈ structs) {a b : Column}
    (ha : a.Throughout Readable) (hb : b.Throughout Readable)
    (hatype : a.datatype = k.codec.datatype) (hbtype : b.datatype = k.codec.datatype)
    (hsame : a.SameRows b) :
    (k = rotationAxisAngle → k.codec.decode a = k.codec.decode b) ∧
    (a.MaskedResolve → b.MaskedResolve → k.codec.decode a = k.codec.decode b) ∧
    ∀ values, k.codec.decode a = .ok values →
      (k.codec.decode b = .ok values ↔ b.MaskedResolve) := by
  have hmasks := masksNulls_of_structs hk
  refine ⟨?_, hmasks.decode_eq ha hb hatype hbtype hsame,
    fun values hdecode => hmasks.decode_eq_ok_iff ha hb hatype hbtype hsame hdecode⟩
  rintro rfl
  exact RotationAxisAngle.decode_eq ha hb hatype hbtype hsame

/-- One null transform over an entry for its rotation, which may point at a null quaternion,
and over any direction. -/
def hiddenTransform (typeId : Int8) (offset : Int32) (fromParent : Slot Bool) : Column :=
  .struct TranslationRotationScale3D.fields 1 (some [false])
    [vectors 3 1 (some [false]) ([.zero, .zero, .zero].map .value),
    .pairUnion Rotation3D.armFields [typeId] [offset] 1
      (vectors 4 1 (some [false]) ([.zero, .zero, .zero, .zero].map .value))
      (.struct RotationAxisAngle.fields 0 none [vectors 3 0 none [], .scalar .float32 []]),
    .pairUnion Scale3D.armFields [0] [0] 1 (vectors 3 0 none []) (.scalar .float32 []),
    .scalar .bool [fromParent]]

theorem sameRows_hiddenTransform (typeId typeId' : Int8) (offset offset' : Int32)
    (fromParent fromParent' : Slot Bool) :
    (hiddenTransform typeId offset fromParent).SameRows
      (hiddenTransform typeId' offset' fromParent') where
  length := rfl
  cell row hrow := by
    obtain rfl : row = 0 := Nat.lt_one_iff.mp hrow
    rfl
  arms := rfl

/-- Neither the direction nor the offset of a null marker matters in a null row. -/
theorem decode_of_sameRows_hiddenTransform :
    transform3D ∈ structs ∧
      (hiddenTransform 0 0 (.value false)).Throughout Readable ∧
      (hiddenTransform 0 9 (.null true)).Throughout Readable ∧
      (hiddenTransform 0 0 (.value false)).datatype = transform3D.codec.datatype ∧
      (hiddenTransform 0 9 (.null true)).datatype = transform3D.codec.datatype ∧
      (hiddenTransform 0 0 (.value false)).SameRows (hiddenTransform 0 9 (.null true)) ∧
      transform3D.codec.decode (hiddenTransform 0 0 (.value false)) =
        transform3D.codec.decode (hiddenTransform 0 9 (.null true)) := by
  have hstruct : transform3D ∈ structs := by decide
  have ha : (hiddenTransform 0 0 (.value false)).Throughout Readable :=
    .readable (by decide) (by decide)
  have hb : (hiddenTransform 0 9 (.null true)).Throughout Readable :=
    .readable (by decide) (by decide)
  have hsame := sameRows_hiddenTransform 0 0 0 9 (.value false) (.null true)
  exact ⟨hstruct, ha, hb, rfl, rfl, hsame,
    (decode_of_sameRows hstruct ha hb rfl rfl hsame).2.1 (by decide) (by decide)⟩

/-- An entry that points at a null makes decoding fail in a row that holds nothing. -/
theorem decode_hiddenTransform :
    (hiddenTransform 0 0 (.value false)).SameRows (hiddenTransform 1 0 (.value false)) ∧
      translationRotationScale3D.codec.decode (hiddenTransform 0 0 (.value false)) = .ok [none] ∧
      translationRotationScale3D.codec.decode (hiddenTransform 1 0 (.value false)) =
        .error (.context "rerun.datatypes.TranslationRotationScale3D#rotation"
          (.missingData "rerun.datatypes.Rotation3D" 0)) :=
  ⟨sameRows_hiddenTransform 0 1 0 0 (.value false) (.value false), rfl, rfl⟩

end Kind

end SpatialColumns
