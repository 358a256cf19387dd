import SpatialColumns.Kind
import SpatialColumns.Proofs.Reading.Transform

/-!
# Reading the columns of registered kinds

The codecs of all registered kinds are faithful. So every valid column decodes, whoever
made it, and whatever decodes is read off its cells, where only the items of lists, angles
and directions are not asked whether they are null. All this holds of columns in which
every row of a list starts in time.
-/

namespace SpatialColumns.Kind

/-- The value that a cell holds. If `fill` is set, the items of lists, angles and
directions that are null are read as what lies there. -/
def ofCell? : (k : Kind) → Bool → Cell → Option (Option k.Value)
  | vec3D => Vec3D.ofCell?
  | quaternion => Quaternion.ofCell?
  | rotationAxisAngle => RotationAxisAngle.ofCell?
  | rotation3D => Rotation3D.ofCell?
  | scale3D => Scale3D.ofCell?
  | translationRotationScale3D => TranslationRotationScale3D.ofCell?
  | uuid => Uuid.ofCell?
  | transform3D => fun fill cell =>
    (TranslationRotationScale3D.ofCell? fill cell).map (Option.map .mk)
  | includedSpaceView => fun fill cell => (Uuid.ofCell? fill cell).map (Option.map .mk)
  | faulty => fun _ cell => (cell.optional? .int64).map (Option.map .mk)
  | unit => fun _ cell => (cell.optional? .int64).map (Option.map fun _ => ())

theorem faithful_of_registered {k : Kind} (hk : k ∈ registered) : k.codec.Faithful k.ofCell? := by
  simp only [registered, List.mem_cons, List.not_mem_nil, or_false] at hk
  rcases hk with rfl | rfl | rfl | rfl | rfl | rfl | rfl | rfl | rfl
  · exact Vec3D.faithful
  · exact Quaternion.faithful
  · exact RotationAxisAngle.faithful
  · exact Rotation3D.faithful
  · exact Scale3D.faithful
  · exact TranslationRotationScale3D.faithful
  · exact Uuid.faithful
  · exact TranslationRotationScale3D.faithful.component
  · exact Uuid.faithful.component

/-- A column of vectors with the given validity bits and floats. -/
def vectors (n length : Nat) (validity : Option (List Bool)) (floats : List (Slot Binary32)) :
    Column :=
  .fixedSizeList (.required "item" (.scalar .float32)) (Int32.ofNat n) length validity
    (.scalar .float32 floats)

/-- Three transforms as no builder writes them. The second one is null over parts that are
not. The entries of the unions share a slot, leave another one unused, and mark a null far
outside of their arms. -/
def strayTransforms : Column :=
  .struct TranslationRotationScale3D.fields 3 (some [true, false, true])
    [vectors 3 3 (some [false, true, true])
      [.null .one, .null .zero, .null .zero, .value .one, .value .one, .value .one, .value .zero,
        .value .one, .value .one],
    .pairUnion Rotation3D.armFields [2, 1, 0] [1, 0, 7] 0
      (vectors 4 2 none ([.zero, .zero, .zero, .one, .one, .one, .one, .one].map .value))
      (.struct RotationAxisAngle.fields 2 none
        [vectors 3 2 none ([.one, .one, .one, .one, .zero, .zero].map .value),
          .scalar .float32 [.value .zero, .value .one]]),
    .pairUnion Scale3D.armFields [1, 2, 1] [0, 0, 0] 0
      (vectors 3 1 none ([.one, .one, .zero].map .value)) (.scalar .float32 [.value .one]),
    .scalar .bool [.value true, .null true, .value false]]

/-- A column decodes to nothing that its cells do not hold, but for nulls among the items of
lists, angles and directions: there it decodes to the bits under the null. A row that cannot be
read in this way makes decoding fail for missing data. -/
theorem decode_reads {k : Kind} (hk : k ∈ registered) {c : Column}
    (hreadable : c.Throughout Column.Readable) (htype : c.datatype = k.codec.datatype) :
    (∀ values, k.codec.decode c = .ok values → values.length = c.length ∧
      ∀ row, (hrow : row < values.length) →
        k.ofCell? true (c.cell row) = some values[row] ∧
          (k.ofCell? false (c.cell row) = some values[row] ∨
            k.ofCell? false (c.cell row) = none)) ∧
    (c.Throughout Column.Pointed → (∃ row < c.length, k.ofCell? true (c.cell row) = none) →
      ∃ e, k.codec.decode c = .error e ∧ e.IsMissing) := by
  have hfaithful := faithful_of_registered hk
  constructor
  · intro values hdecode
    have hreads := hfaithful.reads hreadable htype hdecode
    refine ⟨hreads.length, fun row hrow => ⟨hreads.row row hrow, ?_⟩⟩
    cases hstrict : k.ofCell? false (c.cell row) with
    | none => exact .inr rfl
    | some value =>
        have hsame := (hfaithful.strict hstrict).symm.trans (hreads.row row hrow)
        exact .inl hsame
  · rintro hpointed ⟨row, hrow, hnone⟩
    cases hdecode : k.codec.decode c with
    | error e => exact ⟨e, rfl, hfaithful.missing hreadable hpointed htype hdecode⟩
    | ok values =>
        have hreads := hfaithful.reads hreadable htype hdecode
        have hvalue := hreads.row row (hreads.length ▸ hrow)
        rw [hnone] at hvalue
        cases hvalue

/-- One rotation about an axis, of which the axis or the angle may be null. -/
def lonelyRotation (axis : Option (List Bool)) (angle : Slot Binary32) : Column :=
  .struct RotationAxisAngle.fields 1 none
    [vectors 3 1 axis ([.one, .zero, .zero].map .value), .scalar .float32 [angle]]

/-- A null axis is noticed. -/
theorem decode_reads_without_axis :
    let c := lonelyRotation (some [false]) (.value .one)
    rotationAxisAngle ∈ registered ∧ c.Throughout Column.Readable ∧
      c.datatype = rotationAxisAngle.codec.datatype ∧ c.Throughout Column.Pointed ∧
      ∃ e, rotationAxisAngle.codec.decode c = .error e ∧ e.IsMissing := by
  intro c
  have hregistered : rotationAxisAngle ∈ registered := by decide
  have haligned : c.Throughout Column.Aligned := by decide
  have haddressable : c.Throughout Column.Addressable := by decide
  have hpointed : c.Throughout Column.Pointed := by decide
  have hreadable := haligned.readable haddressable
  exact ⟨hregistered, hreadable, rfl, hpointed,
    (decode_reads hregistered hreadable rfl).2 hpointed ⟨0, Nat.one_pos, rfl⟩⟩

/-- A null angle is not: the rotation that is read has the angle that lies under the null, be
it zero or 7.5, which nobody wrote. -/
theorem decode_without_angle :
    let unset := lonelyRotation none (.null .zero)
    let stale := lonelyRotation none (.null ⟨0x40f00000⟩)
    unset.datatype = rotationAxisAngle.codec.datatype ∧
      stale.datatype = rotationAxisAngle.codec.datatype ∧
      rotationAxisAngle.codec.decode unset = .ok [some ⟨⟨.one, .zero, .zero⟩, ⟨.zero⟩⟩] ∧
      rotationAxisAngle.codec.decode stale =
        .ok [some ⟨⟨.one, .zero, .zero⟩, ⟨⟨0x40f00000⟩⟩⟩] ∧
      rotationAxisAngle.ofCell? false (unset.cell 0) = none ∧
      rotationAxisAngle.ofCell? false (stale.cell 0) = none :=
  ⟨rfl, rfl, rfl, rfl, rfl, rfl⟩

end SpatialColumns.Kind
