import SpatialColumns.Proofs.Text.Hex
import SpatialColumns.Uuid.Text

/-!
# The grammar of identifiers

Dashes are ignored wherever they stand, and then one leading marker. What is
left has to be thirty-two digits of either case. An identifier is written with
these digits in lower case, so its text tells exactly which texts are read as
the identifier.
-/

namespace SpatialColumns.Uuid

open Text.Hex

/-- The characters of a text without its dashes. -/
def undashed (s : String) : List Char := s.toList.filter (· ≠ '-')

/-- The digits of a text: what is left without dashes and without one leading marker. -/
def digitsOf (s : String) : List Char := dropMarker (undashed s)

/-- Characters in groups of eight, four, four, four and twelve, with dashes between them. -/
def Grouped (chars text : List Char) : Prop :=
  ∃ groups : List (List Char), groups.map List.length = [8, 4, 4, 4, 12] ∧
    groups.flatten = chars ∧ ['-'].intercalate groups = text

/-! ## Writing -/

/-- A group is followed by what is left behind it. -/
theorem take_drop_append_drop (chars : List Char) (start count : Nat) :
    (chars.drop start).take count ++ chars.drop (start + count) = chars.drop start := by
  rw [← List.drop_drop, List.take_append_drop]

/-- An identifier is written as its digits in groups. -/
theorem grouped_text (u : Uuid) : Grouped (encode u.bytes.toList) u.text.toList := by
  have hlength : (encode u.bytes.toList).length = 32 := by simp [length_encode]
  unfold text
  generalize encode u.bytes.toList = chars at hlength ⊢
  refine ⟨[(chars.drop 0).take 8, (chars.drop 8).take 4, (chars.drop 12).take 4,
    (chars.drop 16).take 4, (chars.drop 20).take 12], ?_, ?_, ?_⟩
  · simp [hlength]
  · have hlast : (chars.drop 20).take 12 = chars.drop 20 :=
      List.take_of_length_le (by simp [hlength])
    simp only [List.flatten_cons, List.flatten_nil, List.append_nil, hlast]
    rw [take_drop_append_drop chars 16 4, take_drop_append_drop chars 12 4,
      take_drop_append_drop chars 8 4, take_drop_append_drop chars 0 8, List.drop_zero]
  · simp [List.intercalate]

/-- Dashes between groups are all the dashes, if there is none within a group. -/
theorem filter_intercalate {groups : List (List Char)} (h : '-' ∉ groups.flatten) :
    (['-'].intercalate groups).filter (· ≠ '-') = groups.flatten := by
  have hkept {group : List Char} (hgroup : '-' ∉ group) : group.filter (· ≠ '-') = group := by
    refine List.filter_eq_self.mpr fun c hc => ?_
    exact decide_eq_true fun heq : c = '-' => hgroup (heq ▸ hc)
  induction groups with
  | nil => rfl
  | cons group groups ih =>
      rw [List.flatten_cons, List.mem_append, not_or] at h
      cases groups with
      | nil => simpa [List.intercalate] using hkept h.1
      | cons next groups =>
          rw [List.intercalate_cons_cons, List.filter_append, List.filter_append, hkept h.1, ih h.2]
          simp

/-- There is a dash between any two groups. -/
theorem length_intercalate (groups : List (List Char)) :
    (['-'].intercalate groups).length = groups.flatten.length + (groups.length - 1) := by
  induction groups with
  | nil => rfl
  | cons group groups ih =>
      cases groups with
      | nil => simp [List.intercalate]
      | cons next groups =>
          rw [List.intercalate_cons_cons, List.length_append, List.length_append, ih]
          simp only [List.flatten_cons, List.length_append, List.length_cons, List.length_nil]
          omega

variable {chars text : List Char}

/-- Without its dashes a grouped text is what was grouped. -/
theorem Grouped.filter (h : Grouped chars text) (hdash : '-' ∉ chars) :
    text.filter (· ≠ '-') = chars := by
  obtain ⟨groups, -, rfl, rfl⟩ := h
  exact filter_intercalate hdash

theorem Grouped.length (h : Grouped chars text) : text.length = 36 := by
  obtain ⟨groups, hlengths, -, rfl⟩ := h
  have hcount : groups.length = 5 := by simpa using congrArg List.length hlengths
  rw [length_intercalate, List.length_flatten, hlengths, hcount]
  rfl

/-- The text of an identifier has no dashes but those between its groups. -/
theorem undashed_text (u : Uuid) : undashed u.text = encode u.bytes.toList := by
  refine (grouped_text u).filter fun hdash => ?_
  exact absurd (mem_alphabet_of_mem_encode hdash) (by decide)

/-! ## Reading -/

variable {s : String} {u : Uuid}

/-- Sixteen bytes are those of an identifier. -/
theorem ofBytes?_of_length {bytes : List UInt8} (h : bytes.length = 16) :
    ∃ u : Uuid, ofBytes? bytes = .ok u ∧ u.bytes.toList = bytes :=
  ⟨⟨⟨bytes.toArray, h⟩⟩, dif_pos h, rfl⟩

theorem ofBytes?_toList (u : Uuid) : ofBytes? u.bytes.toList = .ok u :=
  dif_pos u.bytes.size_toArray

theorem parse_eq (s : String) : parse s = (decode 16 (utf8 (undashed s))).bind ofBytes? := rfl

/-- A text is read as the identifier whose digits it has. -/
theorem parse_eq_ok_iff : parse s = .ok u ↔ Spells (undashed s) u.bytes.toList := by
  rw [parse_eq, Column.bind_eq_ok_iff]
  constructor
  · rintro ⟨bytes, hdecode, hread⟩
    obtain ⟨hlength, hspells⟩ := decode_eq_ok_iff.mp hdecode
    obtain ⟨v, hv, hbytes⟩ := ofBytes?_of_length hlength
    rw [hread] at hv
    cases hv
    exact hbytes ▸ hspells
  · intro hspells
    have hdecode := decode_eq_ok_iff.mpr ⟨Vector.length_toList, hspells⟩
    exact ⟨_, hdecode, ofBytes?_toList u⟩

/-- A text is refused for its digits, and never for the number of the bytes that they spell. -/
theorem parse_eq_error_iff {e : HexError} : parse s = .error e ↔ Refusal 16 (undashed s) e := by
  rw [← decode_eq_error_iff, parse_eq]
  cases hdecode : decode 16 (utf8 (undashed s)) with
  | error e' => simp only [Except.bind, Except.error.injEq]
  | ok bytes =>
      -- Sixteen bytes are always those of an identifier.
      obtain ⟨u, hread, -⟩ := ofBytes?_of_length (decode_eq_ok_iff.mp hdecode).1
      simp only [Except.bind, hread, reduceCtorEq]

/-- An identifier is read back from its text. -/
theorem parse_text (u : Uuid) : parse u.text = .ok u := by
  rw [parse_eq_ok_iff, undashed_text]
  exact spells_encode _

/-- Texts of thirty-two digits are all that is read. -/
theorem exists_parse_iff : (∃ u, parse s = .ok u) ↔
    (digitsOf s).length = 32 ∧ ∀ c ∈ digitsOf s, IsDigit c := by
  constructor
  · rintro ⟨u, hread⟩
    have hspells := parse_eq_ok_iff.mp hread
    exact ⟨hspells.length.trans (by rw [Vector.length_toList]), hspells.isDigit⟩
  · rintro ⟨hlength, hdigits⟩
    have hpairs : (dropMarker (undashed s)).length = 2 * 16 := hlength
    obtain ⟨bytes, hbytes, hspells⟩ := exists_spells hpairs hdigits
    obtain ⟨u, -, rfl⟩ := ofBytes?_of_length hbytes
    exact ⟨u, parse_eq_ok_iff.mpr hspells⟩

/-- Texts of the same digits, up to case, are read as the same identifier. -/
theorem parse_eq_iff_lower {t : String} (hread : parse s = .ok u) :
    parse t = .ok u ↔ (digitsOf t).map Char.toLower = (digitsOf s).map Char.toLower := by
  have hlower : (digitsOf s).map Char.toLower = encode u.bytes.toList := parse_eq_ok_iff.mp hread
  rw [hlower]
  exact parse_eq_ok_iff

/-- The grammar of identifiers. A text is read exactly if it has thirty-two digits, and is
refused exactly for the first of the reasons that it gives. What is read has the digits as the
halves of its bytes in order, and is written as these digits in lower case and in groups. So
the texts of one identifier are those of the same digits, its own text among them. -/
theorem parse_grammar (s : String) :
    ((∃ u, parse s = .ok u) ↔ (digitsOf s).length = 32 ∧ ∀ c ∈ digitsOf s, IsDigit c) ∧
    (∀ e, parse s = .error e ↔ Refusal 16 (undashed s) e) ∧
    (∀ u, parse s = .ok u →
      (digitsOf s).map valueOf = u.bytes.toList.flatMap halves ∧
      Grouped ((digitsOf s).map Char.toLower) u.text.toList ∧ u.text.length = 36 ∧
      ∀ t, parse t = .ok u ↔
        (digitsOf t).map Char.toLower = (digitsOf s).map Char.toLower) ∧
    ∀ u : Uuid, parse u.text = .ok u := by
  refine ⟨exists_parse_iff, fun e => parse_eq_error_iff, fun u hread => ?_, parse_text⟩
  have hspells : Spells (undashed s) u.bytes.toList := parse_eq_ok_iff.mp hread
  have hgrouped : Grouped ((digitsOf s).map Char.toLower) u.text.toList := by
    rw [show (digitsOf s).map Char.toLower = encode u.bytes.toList from hspells]
    exact grouped_text u
  refine ⟨hspells.values, hgrouped, ?_, fun t => parse_eq_iff_lower hread⟩
  rw [← String.length_toList, hgrouped.length]

/-- A marker, dashes in other places and digits in capitals make no difference. -/
theorem parse_grammar_marked :
    parse "0X67E5-5044-10b1426F92-47BB680E5FE0C8-" =
        .ok (ofNat 0x67e5504410b1426f9247bb680e5fe0c8) ∧
      parse "67e5504410b1426f9247bb680e5fe0c8" =
        .ok (ofNat 0x67e5504410b1426f9247bb680e5fe0c8) ∧
      (ofNat 0x67e5504410b1426f9247bb680e5fe0c8).text.length = 36 := by
  obtain ⟨-, -, hread, -⟩ := parse_grammar "0X67E5-5044-10b1426F92-47BB680E5FE0C8-"
  obtain ⟨-, -, hlength, hsame⟩ := hread (ofNat 0x67e5504410b1426f9247bb680e5fe0c8) rfl
  exact ⟨rfl, (hsame "67e5504410b1426f9247bb680e5fe0c8").mpr (by decide), hlength⟩

end SpatialColumns.Uuid
