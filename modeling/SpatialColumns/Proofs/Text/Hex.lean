import SpatialColumns.Proofs.Column.Rows
import SpatialColumns.Text.Hex

/-!
# Hexadecimal text

Text is read byte by byte, but a byte below 128 is a character of its own and
the bytes of any other character are at least 128, where there is no digit. So
a text is read exactly if its characters are digits, and what it stands for is
written with the same digits in lower case.
-/

namespace SpatialColumns.Text.Hex

/-- The digits of base sixteen, each at the place of its value. -/
def alphabet : List Char :=
  ['0', '1', '2', '3', '4', '5', '6', '7', '8', '9', 'a', 'b', 'c', 'd', 'e', 'f']

/-- A digit of base sixteen, in either case. -/
def IsDigit (c : Char) : Prop := c.toLower ∈ alphabet

instance : DecidablePred IsDigit := fun c => inferInstanceAs (Decidable (c.toLower ∈ alphabet))

/-- The number that a digit stands for. -/
def valueOf (c : Char) : Nat := alphabet.idxOf c.toLower

/-- The character of a byte as a code point. -/
def charOf (b : UInt8) : Char := Char.ofNat b.toNat

/-- The characters after one leading `0x` or `0X`, if there is one. -/
def dropMarker : List Char → List Char
  | '0' :: 'x' :: rest => rest
  | '0' :: 'X' :: rest => rest
  | chars => chars

/-- The values of the two digits of a byte, the higher one first. -/
def halves (b : UInt8) : List Nat := [b.toNat / 16, b.toNat % 16]

/-! ## Digits -/

theorem digit_mem_alphabet : ∀ n < 16, digit n ∈ alphabet := by decide

theorem idxOf_digit : ∀ n < 16, alphabet.idxOf (digit n) = n := by decide

theorem toLower_digit : ∀ n < 16, (digit n).toLower = digit n := by decide

theorem toNat_digit_le : ∀ n < 16, (digit n).toNat ≤ 127 := by decide

/-- The alphabet has nothing but the digits that are written. -/
theorem exists_digit {c : Char} (h : c ∈ alphabet) : ∃ n < 16, digit n = c := by
  have hdigits : alphabet = (List.range 16).map digit := rfl
  rw [hdigits] at h
  obtain ⟨n, hn, hdigit⟩ := List.mem_map.mp h
  exact ⟨n, List.mem_range.mp hn, hdigit⟩

theorem toLower_of_mem_alphabet {c : Char} (h : c ∈ alphabet) : c.toLower = c := by
  obtain ⟨n, hn, rfl⟩ := exists_digit h
  exact toLower_digit n hn

theorem valueOf_digit {n : Nat} (h : n < 16) : valueOf (digit n) = n := by
  rw [valueOf, toLower_digit n h, idxOf_digit n h]

theorem digit_valueOf {c : Char} (h : IsDigit c) : digit (valueOf c) = c.toLower := by
  obtain ⟨n, hn, hdigit⟩ := exists_digit h
  rw [valueOf, ← hdigit, idxOf_digit n hn]

theorem valueOf_lt {c : Char} (h : IsDigit c) : valueOf c < 16 := List.idxOf_lt_length_of_mem h

theorem digitValue?_ofNat : ∀ n < 256, digitValue? (UInt8.ofNat n) =
    if IsDigit (Char.ofNat n) then some (valueOf (Char.ofNat n)) else none := by
  decide +kernel

/-- A byte is read as the digit of that code point. -/
theorem digitValue?_eq (b : UInt8) :
    digitValue? b = if IsDigit (charOf b) then some (valueOf (charOf b)) else none := by
  have h := digitValue?_ofNat b.toNat b.toNat_lt
  rwa [UInt8.ofNat_toNat] at h

/-! ## Bytes as two digits -/

theorem halves_lt {b : UInt8} : ∀ n ∈ halves b, n < 16 := by
  have hb := b.toNat_lt
  intro n hn
  simp only [halves, List.mem_cons, List.not_mem_nil, or_false] at hn
  omega

theorem ofNat_halves (b : UInt8) : UInt8.ofNat (16 * (b.toNat / 16) + b.toNat % 16) = b := by
  rw [Nat.div_add_mod, UInt8.ofNat_toNat]

/-- A byte is written as the digits of its two halves. -/
theorem encode_eq (bytes : List UInt8) : encode bytes = (bytes.flatMap halves).map digit := by
  rw [encode, List.map_flatMap]
  rfl

theorem length_encode (bytes : List UInt8) : (encode bytes).length = 2 * bytes.length := by
  induction bytes with
  | nil => rfl
  | cons b bytes ih =>
      rw [encode, List.flatMap_cons, List.length_append, ← encode, ih, List.length_cons]
      change 2 + 2 * bytes.length = 2 * (bytes.length + 1)
      omega

/-- What is written for bytes are digits in lower case. -/
theorem mem_alphabet_of_mem_encode {bytes : List UInt8} {c : Char} (h : c ∈ encode bytes) :
    c ∈ alphabet := by
  rw [encode_eq] at h
  obtain ⟨n, hn, rfl⟩ := List.mem_map.mp h
  obtain ⟨b, -, hhalf⟩ := List.mem_flatMap.mp hn
  exact digit_mem_alphabet n (halves_lt n hhalf)

@[simp] theorem map_toLower_encode (bytes : List UInt8) :
    (encode bytes).map Char.toLower = encode bytes := by
  refine (List.map_congr_left fun c hc => ?_).trans (List.map_id _)
  exact toLower_of_mem_alphabet (mem_alphabet_of_mem_encode hc)

/-- The digits of bytes have the values of the halves. -/
theorem map_valueOf_encode (bytes : List UInt8) :
    (encode bytes).map valueOf = bytes.flatMap halves := by
  rw [encode_eq, List.map_map]
  refine (List.map_congr_left fun n hn => ?_).trans (List.map_id _)
  obtain ⟨b, -, hhalf⟩ := List.mem_flatMap.mp hn
  exact valueOf_digit (halves_lt n hhalf)

@[simp] theorem joinPairs_halves (bytes : List UInt8) :
    joinPairs (bytes.flatMap halves) = bytes := by
  induction bytes with
  | nil => rfl
  | cons b bytes ih =>
      change UInt8.ofNat (16 * (b.toNat / 16) + b.toNat % 16) ::
        joinPairs (bytes.flatMap halves) = b :: bytes
      rw [ih, ofNat_halves]

/-- An even number of values below sixteen are the halves of the bytes that they are joined to. -/
theorem halves_joinPairs {count : Nat} {values : List Nat} (hlength : values.length = 2 * count)
    (hvalues : ∀ n ∈ values, n < 16) : (joinPairs values).flatMap halves = values := by
  induction count generalizing values with
  | zero =>
      obtain rfl := List.eq_nil_of_length_eq_zero hlength
      rfl
  | succ count ih =>
      match values, hlength with
      | high :: low :: rest, hlength =>
        have hhigh : high < 16 := hvalues high List.mem_cons_self
        have hlow : low < 16 := hvalues low (List.mem_cons_of_mem _ List.mem_cons_self)
        have hrest : (joinPairs rest).flatMap halves = rest := by
          refine ih ?_ fun n hn => hvalues n (List.mem_cons_of_mem _ (List.mem_cons_of_mem _ hn))
          simp only [List.length_cons] at hlength
          omega
        have hbyte : (UInt8.ofNat (16 * high + low)).toNat = 16 * high + low :=
          UInt8.toNat_ofNat_of_lt' (by change _ < 256; omega)
        have hdiv : (16 * high + low) / 16 = high := by omega
        have hmod : (16 * high + low) % 16 = low := by omega
        rw [joinPairs, List.flatMap_cons, hrest, halves, hbyte, hdiv, hmod]
        rfl

/-! ## Text as bytes -/

/-- A character below 128 is a byte of its own. -/
theorem utf8EncodeChar_of_le {c : Char} (h : c.toNat ≤ 127) :
    String.utf8EncodeChar c = [UInt8.ofNat c.toNat] :=
  if_pos h

/-- The bytes of any other character are at least 128. -/
theorem le_of_mem_utf8EncodeChar {c : Char} (h : 127 < c.toNat) {b : UInt8}
    (hb : b ∈ String.utf8EncodeChar c) : 128 ≤ b.toNat := by
  have hnot : ¬ c.val.toNat ≤ 127 := Nat.not_le_of_lt h
  simp only [String.utf8EncodeChar, if_neg hnot] at hb
  split at hb
  next =>
    simp only [List.mem_cons, List.not_mem_nil, or_false] at hb
    rcases hb with rfl | rfl
    all_goals rw [UInt8.toNat_ofNat']; omega
  next =>
    split at hb
    next =>
      simp only [List.mem_cons, List.not_mem_nil, or_false] at hb
      rcases hb with rfl | rfl | rfl
      all_goals rw [UInt8.toNat_ofNat']; omega
    next =>
      simp only [List.mem_cons, List.not_mem_nil, or_false] at hb
      rcases hb with rfl | rfl | rfl | rfl
      all_goals rw [UInt8.toNat_ofNat']; omega

/-- A byte below 128 comes from the character of that code point and from no other. -/
theorem exists_utf8EncodeChar (c : Char) : ∃ b more, String.utf8EncodeChar c = b :: more ∧
    ∀ d : Char, d.toNat ≤ 127 → b.toNat = d.toNat → c = d := by
  by_cases hc : c.toNat ≤ 127
  · refine ⟨_, _, utf8EncodeChar_of_le hc, fun d _ heq => ?_⟩
    rw [UInt8.toNat_ofNat_of_lt' (Nat.lt_of_le_of_lt hc (by decide))] at heq
    exact Char.toNat_inj.mp heq
  · obtain ⟨b, more, hcons⟩ := List.exists_cons_of_ne_nil String.utf8EncodeChar_ne_nil
    refine ⟨b, more, hcons, fun d hd heq => ?_⟩
    have hle : 128 ≤ b.toNat := le_of_mem_utf8EncodeChar (Nat.lt_of_not_le hc)
      (hcons ▸ List.mem_cons_self)
    omega

@[simp] theorem utf8_cons (c : Char) (chars : List Char) :
    utf8 (c :: chars) = String.utf8EncodeChar c ++ utf8 chars :=
  List.flatMap_cons

theorem dropMarker_of_ne_zero {c : Char} (h : c ≠ '0') (rest : List Char) :
    dropMarker (c :: rest) = c :: rest := by
  simp [dropMarker, h]

theorem dropMarker_of_ne_x {c : Char} (hlower : c ≠ 'x') (hupper : c ≠ 'X') (rest : List Char) :
    dropMarker ('0' :: c :: rest) = '0' :: c :: rest := by
  simp [dropMarker, hlower, hupper]

theorem stripMarker_of_ne_zero {b : UInt8} (h : b.toNat ≠ '0'.toNat) (rest : List UInt8) :
    stripMarker (b :: rest) = b :: rest := by
  cases rest with
  | nil => rfl
  | cons x rest => exact if_neg fun hmarker => h hmarker.1

theorem stripMarker_of_ne_x {zero b : UInt8} (hlower : b.toNat ≠ 'x'.toNat)
    (hupper : b.toNat ≠ 'X'.toNat) (rest : List UInt8) :
    stripMarker (zero :: b :: rest) = zero :: b :: rest :=
  if_neg fun hmarker => hmarker.2.elim hlower hupper

/-- The marker is dropped from the bytes of a text as from its characters. -/
theorem stripMarker_utf8 (chars : List Char) :
    stripMarker (utf8 chars) = utf8 (dropMarker chars) := by
  -- The first byte of a character that is not in the marker is in no marker either.
  match chars with
  | [] => rfl
  | c :: rest =>
    obtain ⟨b, more, hcons, hfirst⟩ := exists_utf8EncodeChar c
    by_cases hzero : c = '0'
    · subst hzero
      match rest with
      | [] => rfl
      | d :: rest =>
        obtain ⟨x, others, hothers, hsecond⟩ := exists_utf8EncodeChar d
        by_cases hlower : d = 'x'
        · subst hlower
          rfl
        · by_cases hupper : d = 'X'
          · subst hupper
            rfl
          · rw [dropMarker_of_ne_x hlower hupper, utf8_cons, utf8_cons, hothers]
            exact stripMarker_of_ne_x (fun heq => hlower (hsecond 'x' (by decide) heq))
              (fun heq => hupper (hsecond 'X' (by decide) heq)) _
    · rw [dropMarker_of_ne_zero hzero, utf8_cons, hcons]
      exact stripMarker_of_ne_zero (fun heq => hzero (hfirst '0' (by decide) heq)) _

/-- The marker does not make a number of bytes even or odd. -/
theorem length_utf8_dropMarker (chars : List Char) :
    (utf8 (dropMarker chars)).length % 2 = (utf8 chars).length % 2 := by
  unfold dropMarker
  split
  next rest =>
    change _ = ((utf8 rest).length + 1 + 1) % 2
    omega
  next rest =>
    change _ = ((utf8 rest).length + 1 + 1) % 2
    omega
  next => rfl

/-! ## Texts of digits -/

theorem toNat_le_of_isDigit {c : Char} (h : IsDigit c) : c.toNat ≤ 127 := by
  by_cases hupper : c.val ≥ 'A'.val ∧ c.val ≤ 'Z'.val
  · exact Nat.le_trans (UInt32.le_iff_toNat_le.mp hupper.2) (by decide)
  · have hlower : c.toLower = c := dif_neg hupper
    rw [IsDigit, hlower] at h
    obtain ⟨n, hn, rfl⟩ := exists_digit h
    exact toNat_digit_le n hn

theorem toNat_charOf (b : UInt8) : (charOf b).toNat = b.toNat := by
  have hvalid : b.toNat.isValidChar := Or.inl (Nat.lt_trans b.toNat_lt (by decide))
  rw [charOf, Char.ofNat, dif_pos hvalid]
  rfl

theorem charOf_ofNat {c : Char} (h : c.toNat ≤ 127) : charOf (UInt8.ofNat c.toNat) = c := by
  rw [charOf, UInt8.toNat_ofNat_of_lt' (Nat.lt_of_le_of_lt h (by decide)), Char.ofNat_toNat]

/-- A character is a digit exactly if its bytes are. -/
theorem forall_isDigit_utf8EncodeChar (c : Char) :
    (∀ b ∈ String.utf8EncodeChar c, IsDigit (charOf b)) ↔ IsDigit c := by
  by_cases hc : c.toNat ≤ 127
  · simp [utf8EncodeChar_of_le hc, charOf_ofNat hc]
  · obtain ⟨b, more, hcons, -⟩ := exists_utf8EncodeChar c
    have hmem : b ∈ String.utf8EncodeChar c := hcons ▸ List.mem_cons_self
    have hle : 128 ≤ b.toNat := le_of_mem_utf8EncodeChar (Nat.lt_of_not_le hc) hmem
    refine iff_of_false (fun hbytes => ?_) fun hdigit => hc (toNat_le_of_isDigit hdigit)
    have hsmall := toNat_le_of_isDigit (hbytes b hmem)
    rw [toNat_charOf] at hsmall
    omega

/-- A text consists of digits exactly if its bytes do. -/
theorem forall_isDigit_utf8 (chars : List Char) :
    (∀ b ∈ utf8 chars, IsDigit (charOf b)) ↔ ∀ c ∈ chars, IsDigit c := by
  induction chars with
  | nil => exact iff_of_true nofun nofun
  | cons c chars ih =>
      rw [utf8_cons, List.forall_mem_append, ih, forall_isDigit_utf8EncodeChar,
        List.forall_mem_cons]

/-- Digits are read as they stand. -/
theorem map_charOf_utf8 {chars : List Char} (h : ∀ c ∈ chars, IsDigit c) :
    (utf8 chars).map charOf = chars := by
  induction chars with
  | nil => rfl
  | cons c chars ih =>
      obtain ⟨hc, hchars⟩ := List.forall_mem_cons.mp h
      have hsmall := toNat_le_of_isDigit hc
      rw [utf8_cons, utf8EncodeChar_of_le hsmall, List.singleton_append, List.map_cons,
        charOf_ofNat hsmall, ih hchars]

/-- A list of bytes is all digits, or has a first byte that is none. -/
theorem digits_or_stray (bytes : List UInt8) :
    (∀ b ∈ bytes, IsDigit (charOf b)) ∨ ∃ before stray after, bytes = before ++ stray :: after ∧
      (∀ b ∈ before, IsDigit (charOf b)) ∧ ¬ IsDigit (charOf stray) := by
  induction bytes with
  | nil => exact .inl nofun
  | cons b bytes ih =>
      by_cases hb : IsDigit (charOf b)
      · rcases ih with hall | ⟨before, stray, after, rfl, hbefore, hstray⟩
        · exact .inl (List.forall_mem_cons.mpr ⟨hb, hall⟩)
        · exact .inr ⟨b :: before, stray, after, rfl,
            List.forall_mem_cons.mpr ⟨hb, hbefore⟩, hstray⟩
      · exact .inr ⟨[], b, bytes, rfl, nofun, hb⟩

theorem digitValues_of_digits {bytes : List UInt8} (h : ∀ b ∈ bytes, IsDigit (charOf b)) :
    digitValues bytes = .ok (bytes.map fun b => valueOf (charOf b)) := by
  apply Column.mapM_eq_ok (by simp)
  intro i hi hr
  have hlt : i < bytes.length := by simpa using hi
  have hdigit := h bytes[i] (List.getElem_mem hlt)
  simp [digitValue?_eq, hdigit]

theorem digitValues_of_stray {before after : List UInt8} {stray : UInt8}
    (hbefore : ∀ b ∈ before, IsDigit (charOf b)) (hstray : ¬ IsDigit (charOf stray)) :
    digitValues (before ++ stray :: after) = .error (.invalidCharacter stray before.length) := by
  have hread := digitValues_of_digits hbefore
  rw [digitValues] at hread
  rw [digitValues, List.zipIdx_append, List.mapM_append, hread, List.zipIdx_cons, List.mapM_cons]
  simp only [digitValue?_eq, if_neg hstray, Nat.zero_add]
  rfl

/-! ## Reading -/

/-- Why a text is not read as `count` bytes. An odd number of text bytes is reported before
anything else, then a wrong number of them behind the marker, then the first that is no
digit. -/
inductive Refusal (count : Nat) (chars : List Char) : HexError → Prop
  | oddLength (hodd : (utf8 chars).length % 2 = 1) : Refusal count chars .oddLength
  | invalidLength (heven : (utf8 chars).length % 2 = 0)
      (hlength : (utf8 (dropMarker chars)).length ≠ 2 * count) :
      Refusal count chars .invalidLength
  | invalidCharacter {before after : List UInt8} {stray : UInt8}
      (hlength : (utf8 (dropMarker chars)).length = 2 * count)
      (hbytes : utf8 (dropMarker chars) = before ++ stray :: after)
      (hbefore : ∀ b ∈ before, IsDigit (charOf b)) (hstray : ¬ IsDigit (charOf stray)) :
      Refusal count chars (.invalidCharacter stray before.length)

/-- A text whose digits are those of the given bytes, up to case. -/
def Spells (chars : List Char) (bytes : List UInt8) : Prop :=
  (dropMarker chars).map Char.toLower = encode bytes

variable {count : Nat} {chars : List Char} {bytes : List UInt8} {e : HexError}

/-- A text with the right number of bytes behind its marker is read as its digits say. -/
theorem decode_of_length (h : (utf8 (dropMarker chars)).length = 2 * count) :
    decode count (utf8 chars) = (digitValues (utf8 (dropMarker chars))).map joinPairs := by
  have heven := length_utf8_dropMarker chars
  have hparity : ¬ (utf8 chars).length % 2 = 1 := by omega
  rw [decode, if_neg hparity, stripMarker_utf8]
  simp only [h, ne_eq, not_true_eq_false, if_false]

theorem decode_of_refusal (h : Refusal count chars e) : decode count (utf8 chars) = .error e := by
  cases h with
  | oddLength hodd => exact if_pos hodd
  | invalidLength heven hlength =>
      have hparity : ¬ (utf8 chars).length % 2 = 1 := by omega
      rw [decode, if_neg hparity, stripMarker_utf8]
      exact if_pos hlength
  | invalidCharacter hlength hbytes hbefore hstray =>
      rw [decode_of_length hlength, hbytes, digitValues_of_stray hbefore hstray]
      rfl

/-- The text of bytes has nothing but digits. -/
theorem Spells.isDigit (h : Spells chars bytes) : ∀ c ∈ dropMarker chars, IsDigit c := by
  intro c hc
  exact mem_alphabet_of_mem_encode (h ▸ List.mem_map_of_mem hc)

/-- Digits in lower case have no marker before them. -/
theorem dropMarker_of_alphabet (h : ∀ c ∈ chars, c ∈ alphabet) : dropMarker chars = chars := by
  unfold dropMarker
  split
  next rest => exact absurd (h 'x' (by simp)) (by decide)
  next rest => exact absurd (h 'X' (by simp)) (by decide)
  next => rfl

theorem spells_encode (bytes : List UInt8) : Spells (encode bytes) bytes := by
  rw [Spells, dropMarker_of_alphabet fun c hc => mem_alphabet_of_mem_encode hc, map_toLower_encode]

theorem Spells.length (h : Spells chars bytes) : (dropMarker chars).length = 2 * bytes.length := by
  rw [← length_encode, ← h, List.length_map]

/-- The digits of a text have the values of the halves of its bytes. -/
theorem Spells.values (h : Spells chars bytes) :
    (dropMarker chars).map valueOf = bytes.flatMap halves := by
  have hlower : ∀ c ∈ dropMarker chars, valueOf c = valueOf c.toLower := by
    intro c hc
    rw [valueOf, valueOf, toLower_of_mem_alphabet (h.isDigit c hc)]
  calc
    (dropMarker chars).map valueOf = ((dropMarker chars).map Char.toLower).map valueOf := by
      rw [List.map_map]
      exact List.map_congr_left hlower
    _ = bytes.flatMap halves := by rw [h, map_valueOf_encode]

/-- Digits are as many bytes as characters. -/
theorem length_utf8_of_digits (h : ∀ c ∈ chars, IsDigit c) :
    (utf8 chars).length = chars.length := by
  simpa using congrArg List.length (map_charOf_utf8 h)

theorem decode_of_spells (h : Spells chars bytes) :
    decode bytes.length (utf8 chars) = .ok bytes := by
  have hdigits := h.isDigit
  have hlength : (utf8 (dropMarker chars)).length = 2 * bytes.length :=
    (length_utf8_of_digits hdigits).trans h.length
  have hvalues : (utf8 (dropMarker chars)).map (fun b => valueOf (charOf b)) =
      bytes.flatMap halves := by
    calc
      (utf8 (dropMarker chars)).map (fun b => valueOf (charOf b)) =
          ((utf8 (dropMarker chars)).map charOf).map valueOf := by
        rw [List.map_map]
        rfl
      _ = bytes.flatMap halves := by rw [map_charOf_utf8 hdigits, h.values]
  have hbytes := (forall_isDigit_utf8 _).mpr hdigits
  rw [decode_of_length hlength, digitValues_of_digits hbytes, hvalues]
  simp only [Except.map, joinPairs_halves]

/-- Digits spell the bytes that their values are joined to. -/
theorem exists_spells (hlength : (dropMarker chars).length = 2 * count)
    (hdigits : ∀ c ∈ dropMarker chars, IsDigit c) :
    ∃ bytes, bytes.length = count ∧ Spells chars bytes := by
  have hhalves : (joinPairs ((dropMarker chars).map valueOf)).flatMap halves =
      (dropMarker chars).map valueOf := by
    refine halves_joinPairs (by rwa [List.length_map]) fun n hn => ?_
    obtain ⟨c, hc, rfl⟩ := List.mem_map.mp hn
    exact valueOf_lt (hdigits c hc)
  have hspells : Spells chars (joinPairs ((dropMarker chars).map valueOf)) := by
    rw [Spells, encode_eq, hhalves, List.map_map]
    exact List.map_congr_left fun c hc => (digit_valueOf (hdigits c hc)).symm
  refine ⟨_, ?_, hspells⟩
  have hbytes := hspells.length
  omega

/-- A text spells bytes or is refused. -/
theorem spells_or_refusal (count : Nat) (chars : List Char) :
    (∃ bytes, bytes.length = count ∧ Spells chars bytes) ∨ ∃ e, Refusal count chars e := by
  rcases Nat.mod_two_eq_zero_or_one (utf8 chars).length with heven | hodd
  · by_cases hlength : (utf8 (dropMarker chars)).length = 2 * count
    · rcases digits_or_stray (utf8 (dropMarker chars)) with
        hall | ⟨_, _, _, hbytes, hbefore, hstray⟩
      · have hdigits := (forall_isDigit_utf8 _).mp hall
        exact .inl (exists_spells ((length_utf8_of_digits hdigits).symm.trans hlength) hdigits)
      · exact .inr ⟨_, .invalidCharacter hlength hbytes hbefore hstray⟩
    · exact .inr ⟨_, .invalidLength heven hlength⟩
  · exact .inr ⟨_, .oddLength hodd⟩

/-- Bytes are read from a text exactly if it spells them. -/
theorem decode_eq_ok_iff :
    decode count (utf8 chars) = .ok bytes ↔ bytes.length = count ∧ Spells chars bytes := by
  refine ⟨fun h => ?_, fun ⟨hlength, hspells⟩ => hlength ▸ decode_of_spells hspells⟩
  rcases spells_or_refusal count chars with ⟨others, hlength, hspells⟩ | ⟨e, hrefusal⟩
  · have hothers := decode_of_spells hspells
    rw [hlength, h] at hothers
    cases hothers
    exact ⟨hlength, hspells⟩
  · rw [decode_of_refusal hrefusal] at h
    cases h

/-- A text is refused exactly for the reason that it gives. -/
theorem decode_eq_error_iff : decode count (utf8 chars) = .error e ↔ Refusal count chars e := by
  refine ⟨fun h => ?_, decode_of_refusal⟩
  rcases spells_or_refusal count chars with ⟨others, hlength, hspells⟩ | ⟨e', hrefusal⟩
  · have hothers := decode_of_spells hspells
    rw [hlength, h] at hothers
    cases hothers
  · have herror := decode_of_refusal hrefusal
    rw [h] at herror
    cases herror
    exact hrefusal

end SpatialColumns.Text.Hex
