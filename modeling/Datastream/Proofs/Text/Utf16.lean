import Datastream.Text.Utf16

/-!
# UTF-16 round trip

Every text is read back from its units. A character is recognised by its first unit alone, whatever
units follow, so `chars` undoes `encodeChar` in front of any units (`chars_encodeChar_append`). And a
text that was read is written in no more units than it was read from (`length_encode_decode_le`).
-/
namespace Datastream

/-- A number that is no character stands for the character 0. -/
theorem toNat_charOfNat_le (n : Nat) : (Char.ofNat n).toNat ≤ n := by
  unfold Char.ofNat
  by_cases valid : n.isValidChar
  · rw [dif_pos valid]
    exact Nat.le_refl n
  · rw [dif_neg valid]
    exact Nat.zero_le n

namespace Utf16

/-- A code point is no surrogate and lies below U+110000. -/
theorem scalar_of_char (c : Char) :
    c.toNat < 0xD800 ∨ (0xDFFF < c.toNat ∧ c.toNat < 0x110000) := c.valid

theorem isHigh_ofNat {n : Nat} (unit : n < 0x10000) :
    isHigh (UInt16.ofNat n) = decide (0xD800 ≤ n ∧ n < 0xDC00) := by
  have toNat : (UInt16.ofNat n).toNat = n := UInt16.toNat_ofNat_of_lt' unit
  simp [isHigh, UInt16.le_iff_toNat_le, UInt16.lt_iff_toNat_lt, toNat, Bool.decide_and]

theorem isLow_ofNat {n : Nat} (unit : n < 0x10000) :
    isLow (UInt16.ofNat n) = decide (0xDC00 ≤ n ∧ n < 0xE000) := by
  have toNat : (UInt16.ofNat n).toNat = n := UInt16.toNat_ofNat_of_lt' unit
  simp [isLow, UInt16.le_iff_toNat_le, UInt16.lt_iff_toNat_lt, toNat, Bool.decide_and]

theorem pair_ofNat {n : Nat} (above : 0x10000 ≤ n) (scalar : n < 0x110000) :
    pair (UInt16.ofNat (0xD800 + (n - 0x10000) / 0x400))
      (UInt16.ofNat (0xDC00 + (n - 0x10000) % 0x400)) = Char.ofNat n := by
  have high : (UInt16.ofNat (0xD800 + (n - 0x10000) / 0x400)).toNat =
      0xD800 + (n - 0x10000) / 0x400 := UInt16.toNat_ofNat_of_lt' (by simp only [UInt16.size]; omega)
  have low : (UInt16.ofNat (0xDC00 + (n - 0x10000) % 0x400)).toNat =
      0xDC00 + (n - 0x10000) % 0x400 := UInt16.toNat_ofNat_of_lt' (by simp only [UInt16.size]; omega)
  have joined : 0x10000 + (0xD800 + (n - 0x10000) / 0x400 - 0xD800) * 0x400 +
      (0xDC00 + (n - 0x10000) % 0x400 - 0xDC00) = n := by omega
  rw [pair, high, low, joined]

/-- A unit that is no surrogate is a character by itself. -/
theorem chars_cons {u : UInt16} (high : isHigh u = false) (low : isLow u = false)
    (rest : List UInt16) : chars (u :: rest) = Char.ofNat u.toNat :: chars rest := by
  cases rest with
  | nil => simp [chars, high, low]
  | cons v rest => simp [chars, high, low]

theorem chars_encodeChar_append (c : Char) (rest : List UInt16) :
    chars (encodeChar c ++ rest) = c :: chars rest := by
  have scalar := scalar_of_char c
  unfold encodeChar
  by_cases small : c.toNat < 0x10000
  · have toNat : (UInt16.ofNat c.toNat).toNat = c.toNat := UInt16.toNat_ofNat_of_lt' small
    have high : isHigh (UInt16.ofNat c.toNat) = false := by
      rw [isHigh_ofNat small]
      simp only [decide_eq_false_iff_not]
      omega
    have low : isLow (UInt16.ofNat c.toNat) = false := by
      rw [isLow_ofNat small]
      simp only [decide_eq_false_iff_not]
      omega
    rw [if_pos small, List.singleton_append, chars_cons high low, toNat, Char.ofNat_toNat]
  · have high : isHigh (UInt16.ofNat (0xD800 + (c.toNat - 0x10000) / 0x400)) = true := by
      rw [isHigh_ofNat (by omega)]
      simp only [decide_eq_true_eq]
      omega
    have low : isLow (UInt16.ofNat (0xDC00 + (c.toNat - 0x10000) % 0x400)) = true := by
      rw [isLow_ofNat (by omega)]
      simp only [decide_eq_true_eq]
      omega
    have paired := pair_ofNat (n := c.toNat) (by omega) (by omega)
    rw [Char.ofNat_toNat] at paired
    simp only [if_neg small, List.cons_append, List.nil_append, chars, high, low, Bool.and_self,
      if_true, paired]

theorem chars_flatMap_encodeChar (cs : List Char) : chars (cs.flatMap encodeChar) = cs := by
  induction cs with
  | nil => rfl
  | cons c cs ih => rw [List.flatMap_cons, chars_encodeChar_append, ih]

theorem decode_encode (s : String) : decode (encode s) = s := by
  rw [decode, encode, chars_flatMap_encodeChar, String.ofList_toList]

theorem length_encodeChar_le (c : Char) : (encodeChar c).length ≤ 2 := by
  unfold encodeChar
  dsimp only
  split
  · exact Nat.le_succ 1
  · exact Nat.le_refl 2

theorem one_le_length_encodeChar (c : Char) : 1 ≤ (encodeChar c).length := by
  unfold encodeChar
  dsimp only
  split
  · exact Nat.le_refl 1
  · exact Nat.le_succ 1

/-- A text has no fewer units than characters. -/
theorem length_le_length_encode (s : String) : s.length ≤ (encode s).length := by
  rw [← String.length_toList, encode]
  induction s.toList with
  | nil => exact Nat.le_refl 0
  | cons c cs ih =>
    have first := one_le_length_encodeChar c
    rw [List.length_cons, List.flatMap_cons, List.length_append]
    omega

/-- What a unit by itself stands for is one unit long. -/
theorem length_encodeChar_ofNat {n : Nat} (unit : n < 0x10000) :
    (encodeChar (Char.ofNat n)).length = 1 := by
  have small : (Char.ofNat n).toNat < 0x10000 := Nat.lt_of_le_of_lt (toNat_charOfNat_le n) unit
  unfold encodeChar
  rw [if_pos small]
  rfl

/-- A text has no more units than it was read from. -/
theorem length_encode_decode_le (us : List UInt16) : (encode (decode us)).length ≤ us.length := by
  have single : ∀ u : UInt16,
      (encodeChar (if isHigh u || isLow u then '\uFFFD' else Char.ofNat u.toNat)).length = 1 := by
    intro u
    split
    · rfl
    · exact length_encodeChar_ofNat u.toNat_lt
  rw [encode, decode, String.toList_ofList]
  fun_induction chars us with
  | case1 => exact Nat.le_refl 0
  | case2 u =>
    rw [List.flatMap_singleton, single]
    exact Nat.le_refl 1
  | case3 u v rest paired ih =>
    have pair_length := length_encodeChar_le (pair u v)
    simp only [List.flatMap_cons, List.length_append, List.length_cons]
    omega
  | case4 u v rest _ ih =>
    simp only [List.flatMap_cons, List.length_append, single, List.length_cons] at ih ⊢
    omega

end Utf16
end Datastream
