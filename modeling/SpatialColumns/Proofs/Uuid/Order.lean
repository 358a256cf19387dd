import Mathlib.Algebra.Order.Ring.Nat
import SpatialColumns.Proofs.Uuid.Text

/-!
# The order of identifiers

An identifier is a number, sixteen bytes and a text, and all three come in the
same order. In each of them the first place with different digits decides: for
numbers because a place is worth more than all places behind it together, and
for texts because the groups of any two have the same lengths, so that dashes
only ever meet dashes.
-/

namespace SpatialColumns

/-! ## Comparing place by place -/

/-- Numbers before which the same number stands are compared by themselves. -/
theorem compare_add_left (k m n : Nat) : compare (k + m) (k + n) = compare m n := by
  rcases Nat.lt_trichotomy m n with hlt | rfl | hgt
  · rw [Nat.compare_eq_lt.mpr hlt, Nat.compare_eq_lt.mpr (Nat.add_lt_add_left hlt k)]
  · rw [Nat.compare_eq_eq.mpr rfl, Nat.compare_eq_eq.mpr rfl]
  · rw [Nat.compare_eq_gt.mpr hgt, Nat.compare_eq_gt.mpr (Nat.add_lt_add_left hgt k)]

/-- A place is worth more than what stands behind it. -/
theorem compare_mul_add {base m n r s : Nat} (hr : r < base) (hs : s < base) :
    compare (m * base + r) (n * base + s) = (compare m n).then (compare r s) := by
  have hplace {a b : Nat} (hlt : a < b) : a * base + base ≤ b * base := by
    rw [← Nat.succ_mul]
    exact Nat.mul_le_mul_right base hlt
  rcases Nat.lt_trichotomy m n with hlt | rfl | hgt
  · have hless := hplace hlt
    rw [Nat.compare_eq_lt.mpr hlt, Nat.compare_eq_lt.mpr (by omega)]
    rfl
  · rw [Nat.compare_eq_eq.mpr rfl, compare_add_left]
    rfl
  · have hmore := hplace hgt
    rw [Nat.compare_eq_gt.mpr hgt, Nat.compare_eq_gt.mpr (by omega)]
    rfl

/-- Lists whose heads are of one length are compared by these first. -/
theorem compare_append {α : Type} [Ord α] {xs ys : List α} (h : xs.length = ys.length)
    (xs' ys' : List α) :
    compare (xs ++ xs') (ys ++ ys') = (compare xs ys).then (compare xs' ys') := by
  induction xs generalizing ys with
  | nil =>
      obtain rfl := List.eq_nil_of_length_eq_zero h.symm
      rfl
  | cons x xs ih =>
      obtain ⟨y, ys, rfl⟩ := List.exists_cons_of_length_eq_add_one h.symm
      rw [List.cons_append, List.cons_append, List.compare_cons_cons, List.compare_cons_cons,
        ih (Nat.succ.inj h), Ordering.then_assoc]

/-- Lists are compared by the first place where they differ. -/
theorem compareOfLessAndEq_list (xs ys : List Char) :
    compareOfLessAndEq xs ys = compare xs ys := by
  induction xs generalizing ys with
  | nil => cases ys <;> rfl
  | cons x xs ih =>
      cases ys with
      | nil => rfl
      | cons y ys =>
          rw [List.compare_cons_cons, ← ih]
          -- The heads decide, unless they are the same, and then the tails do.
          change _ = (compareOfLessAndEq x y).then _
          simp only [compareOfLessAndEq, List.cons_lt_cons_iff, List.cons.injEq]
          by_cases hlt : x < y
          · simp [hlt]
          · by_cases heq : x = y
            · simp [heq]
            · simp [hlt, heq]

/-- Texts are compared character by character. -/
theorem compare_toList (s t : String) : compare s t = compare s.toList t.toList := by
  have hless : s < t ↔ s.toList < t.toList := Iff.rfl
  rw [← compareOfLessAndEq_list]
  change compareOfLessAndEq s t = _
  simp only [compareOfLessAndEq, hless, String.toList_inj]

namespace Text.Hex

/-- Digits in lower case come in the order of their values. -/
theorem compare_digit : ∀ m < 16, ∀ n < 16, compare (digit m) (digit n) = compare m n := by
  decide

/-- The two digits of bytes come in the order of the bytes. -/
theorem compare_encodeByte (b c : UInt8) :
    compare (encodeByte b) (encodeByte c) = compare b c := by
  have hb := b.toNat_lt
  have hc := c.toNat_lt
  have hhigh : compare (digit (b.toNat / 16)) (digit (c.toNat / 16)) =
      compare (b.toNat / 16) (c.toNat / 16) := compare_digit _ (by omega) _ (by omega)
  have hlow : compare (digit (b.toNat % 16)) (digit (c.toNat % 16)) =
      compare (b.toNat % 16) (c.toNat % 16) := compare_digit _ (by omega) _ (by omega)
  calc
    compare (encodeByte b) (encodeByte c) =
        (compare (b.toNat / 16) (c.toNat / 16)).then (compare (b.toNat % 16) (c.toNat % 16)) := by
      rw [encodeByte, encodeByte, List.compare_cons_cons, List.compare_cons_cons, hhigh, hlow,
        List.compare_nil_nil, Ordering.then_eq]
    _ = compare (b.toNat / 16 * 16 + b.toNat % 16) (c.toNat / 16 * 16 + c.toNat % 16) :=
      (compare_mul_add (Nat.mod_lt _ (by decide)) (Nat.mod_lt _ (by decide))).symm
    _ = compare b c := by
      rw [Nat.div_add_mod', Nat.div_add_mod', UInt8.compare_eq_toNat_compare_toNat]

/-- Digits come in the order of the bytes that they are written for. -/
theorem compare_encode {xs ys : List UInt8} (h : xs.length = ys.length) :
    compare (encode xs) (encode ys) = compare xs ys := by
  induction xs generalizing ys with
  | nil =>
      obtain rfl := List.eq_nil_of_length_eq_zero h.symm
      rfl
  | cons x xs ih =>
      obtain ⟨y, ys, rfl⟩ := List.exists_cons_of_length_eq_add_one h.symm
      have hcons (b : UInt8) (bytes : List UInt8) :
          encode (b :: bytes) = encodeByte b ++ encode bytes := List.flatMap_cons
      have hdigits : (encodeByte x).length = (encodeByte y).length := rfl
      rw [hcons, hcons, compare_append hdigits, compare_encodeByte, ih (Nat.succ.inj h),
        List.compare_cons_cons]

end Text.Hex

namespace Uuid

open Text.Hex

/-- Between groups of the same lengths dashes make no difference. -/
theorem compare_intercalate {groups others : List (List Char)}
    (h : groups.map List.length = others.map List.length) :
    compare (['-'].intercalate groups) (['-'].intercalate others) =
      compare groups.flatten others.flatten := by
  induction groups generalizing others with
  | nil =>
      obtain rfl := List.map_eq_nil_iff.mp h.symm
      rfl
  | cons group groups ih =>
      obtain ⟨other, others, rfl⟩ := List.exists_cons_of_length_eq_add_one
        (by simpa using congrArg List.length h.symm)
      obtain ⟨hlength, hlengths⟩ := List.cons.inj h
      cases groups with
      | nil =>
          obtain rfl := List.map_eq_nil_iff.mp hlengths.symm
          simp [List.intercalate]
      | cons next groups =>
          obtain ⟨following, others, rfl⟩ := List.exists_cons_of_length_eq_add_one
            (by simpa using congrArg List.length hlengths.symm)
          have hdashed : (group ++ ['-']).length = (other ++ ['-']).length := by
            simpa using hlength
          have hflatten (first : List Char) (rest : List (List Char)) :
              (first :: rest).flatten = first ++ rest.flatten := List.flatten_cons
          rw [List.intercalate_cons_cons, List.intercalate_cons_cons, compare_append hdashed,
            compare_append hlength, ih hlengths, hflatten group, hflatten other,
            compare_append hlength, Ordering.then_assoc]
          rfl

variable {chars others text another : List Char}

/-- Grouped texts come in the order of what was grouped. -/
theorem Grouped.compare (h : Grouped chars text) (hother : Grouped others another) :
    compare text another = compare chars others := by
  obtain ⟨groups, hlengths, rfl, rfl⟩ := h
  obtain ⟨others, hothers, rfl, rfl⟩ := hother
  exact compare_intercalate (hlengths.trans hothers.symm)

/-- Texts come in the order of the identifiers that they are written for. -/
theorem compare_text (u v : Uuid) : compare u.text v.text = u.order v := by
  have hlength : u.bytes.toList.length = v.bytes.toList.length := by
    rw [Vector.length_toList, Vector.length_toList]
  rw [compare_toList, (grouped_text u).compare (grouped_text v), compare_encode hlength, order]

/-! ## Numbers -/

/-- A number with one more digit in base 256. -/
def withDigit (n : Nat) (byte : UInt8) : Nat := n * 256 + byte.toNat

theorem toNat_eq (u : Uuid) : u.toNat = u.bytes.toList.foldl withDigit 0 := rfl

/-- Numbers with as many more digits are compared by what stands before these, and then by
the digits. -/
theorem compare_foldl_withDigit {xs ys : List UInt8} (h : xs.length = ys.length) (m n : Nat) :
    compare (xs.foldl withDigit m) (ys.foldl withDigit n) =
      (compare m n).then (compare xs ys) := by
  induction xs generalizing ys m n with
  | nil =>
      obtain rfl := List.eq_nil_of_length_eq_zero h.symm
      exact (Ordering.then_eq).symm
  | cons x xs ih =>
      obtain ⟨y, ys, rfl⟩ := List.exists_cons_of_length_eq_add_one h.symm
      rw [List.foldl_cons, List.foldl_cons, ih (Nat.succ.inj h), withDigit, withDigit,
        compare_mul_add x.toNat_lt y.toNat_lt, Ordering.then_assoc, List.compare_cons_cons,
        UInt8.compare_eq_toNat_compare_toNat]

/-- Numbers come in the order of the identifiers. -/
theorem compare_toNat (u v : Uuid) : compare u.toNat v.toNat = u.order v := by
  have hlength : u.bytes.toList.length = v.bytes.toList.length := by
    rw [Vector.length_toList, Vector.length_toList]
  rw [toNat_eq, toNat_eq, compare_foldl_withDigit hlength, order]
  rfl

/-- Identifiers are told apart by their numbers. -/
theorem toNat_inj {u v : Uuid} : u.toNat = v.toNat ↔ u = v := by
  rw [← Nat.compare_eq_eq, compare_toNat, order, Std.LawfulEqOrd.compare_eq_iff_eq,
    Vector.toList_inj, mk.injEq]

/-- Digits in base 256 do not reach the next number of the place in front of them. -/
theorem foldl_withDigit_lt (bytes : List UInt8) (n : Nat) :
    bytes.foldl withDigit n < (n + 1) * 2 ^ (8 * bytes.length) := by
  induction bytes generalizing n with
  | nil => simp
  | cons byte bytes ih =>
      have hbyte := byte.toNat_lt
      have hplace : withDigit n byte + 1 ≤ (n + 1) * 2 ^ 8 := by
        unfold withDigit
        omega
      calc
        (byte :: bytes).foldl withDigit n < (withDigit n byte + 1) * 2 ^ (8 * bytes.length) :=
          ih (withDigit n byte)
        _ ≤ (n + 1) * 2 ^ 8 * 2 ^ (8 * bytes.length) := Nat.mul_le_mul_right _ hplace
        _ = (n + 1) * 2 ^ (8 * (byte :: bytes).length) := by
          rw [Nat.mul_assoc, ← Nat.pow_add, List.length_cons, Nat.mul_succ, Nat.add_comm 8]

/-- The last digits of a number bring it back up to their place. -/
theorem foldl_withDigit_ofFn (count m n : Nat) :
    (List.ofFn fun i : Fin count =>
      UInt8.ofNat (n >>> (8 * (count - 1 - i.val)))).foldl withDigit m =
        m * 2 ^ (8 * count) + n % 2 ^ (8 * count) := by
  induction count generalizing m with
  | zero => simp [Nat.mod_one]
  | succ count ih =>
      have htail : (fun i : Fin count => UInt8.ofNat (n >>> (8 * (count + 1 - 1 - i.succ.val)))) =
          fun i : Fin count => UInt8.ofNat (n >>> (8 * (count - 1 - i.val))) := by
        funext i
        have hplace : count + 1 - 1 - i.succ.val = count - 1 - i.val := by
          rw [Fin.val_succ]
          omega
        rw [hplace]
      have hfirst : withDigit m
          (UInt8.ofNat (n >>> (8 * (count + 1 - 1 - (0 : Fin (count + 1)).val)))) =
            m * 2 ^ 8 + n / 2 ^ (8 * count) % 2 ^ 8 := by
        rw [withDigit, UInt8.toNat_ofNat', Nat.shiftRight_eq_div_pow]
        rfl
      have hplaces : 2 ^ (8 * (count + 1)) = 2 ^ (8 * count) * 2 ^ 8 := by
        rw [Nat.mul_succ, Nat.pow_add]
      -- The first digit counts the place itself, and the others are the rest below it.
      rw [List.ofFn_succ, List.foldl_cons, htail, ih, hfirst, hplaces, Nat.mod_mul]
      grind

theorem toNat_ofNat (n : Nat) : (ofNat n).toNat = n % 2 ^ 128 := by
  rw [toNat_eq, ofNat, Vector.toList_ofFn]
  exact (foldl_withDigit_ofFn 16 0 n).trans (by rw [Nat.zero_mul, Nat.zero_add])

theorem toNat_lt (u : Uuid) : u.toNat < 2 ^ 128 := by
  have h := foldl_withDigit_lt u.bytes.toList 0
  rwa [Vector.length_toList, Nat.zero_add, Nat.one_mul] at h

theorem ofNat_toNat (u : Uuid) : ofNat u.toNat = u := by
  rw [← toNat_inj, toNat_ofNat, Nat.mod_eq_of_lt u.toNat_lt]

/-- Identifiers are the numbers below `2 ^ 128`, and come in the order of these numbers, which
is the order of their bytes and of their texts. -/
theorem order_agrees :
    (∀ n, (ofNat n).toNat = n % 2 ^ 128) ∧
    (∀ u : Uuid, u.toNat < 2 ^ 128 ∧ ofNat u.toNat = u) ∧
    ∀ u v : Uuid, compare u.toNat v.toNat = u.order v ∧ compare u.text v.text = u.order v :=
  ⟨toNat_ofNat, fun u => ⟨u.toNat_lt, u.ofNat_toNat⟩,
    fun u v => ⟨compare_toNat u v, compare_text u v⟩⟩

end Uuid

end SpatialColumns
