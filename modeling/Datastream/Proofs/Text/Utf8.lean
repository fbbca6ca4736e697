import Datastream.Proofs.Text.Utf16
import Datastream.Text.Utf8

/-!
# UTF-8 round trip

Every text is read back from its bytes. A character's first byte tells how many follow it and in
which range the second one lies (`lead_of_two`, `second_of_three`, `second_of_four`), so `first`
finds the character whatever stands behind it, and `chars` undoes the encoding character by
character. Bytes that are no text are written back longer than they were, but no more than three
times (`length_encode_decode_le`).
-/
namespace Datastream.Utf8

/-- The byte that carries six bits of a character behind its first byte. -/
def trail (n : Nat) : UInt8 := UInt8.ofNat (n % 64 + 128)

theorem toNat_trail (n : Nat) : (trail n).toNat = n % 64 + 128 :=
  UInt8.toNat_ofNat_of_lt' (by simp only [UInt8.size]; omega)

theorem isContinuation_trail (n : Nat) : isContinuation (trail n) = true := by
  simp only [isContinuation, UInt8.le_iff_toNat_le, toNat_trail, Bool.and_eq_true, decide_eq_true_eq]
  exact ⟨Nat.le_add_left 128 _, by change _ ≤ 191; omega⟩

theorem payload_trail (n : Nat) : payload (trail n) = n % 64 := by
  rw [payload, toNat_trail]
  omega

/-- A byte that leads others, with a second byte in its range and enough behind it. -/
theorem first_of_lead {b second low high : UInt8} {more : Nat} {others : Bytes}
    (large : ¬ b < 0x80) (leads : lead b = some (more, low, high))
    (low_le : low ≤ second) (le_high : second ≤ high)
    (complete : continued (more - 1) others + 1 = more) :
    first b (second :: others) =
      (Char.ofNat (((second :: others).take more).foldl (fun n x => n * 64 + payload x)
        (b.toNat % Nat.pow 2 (6 - more))), more) := by
  simp only [first, if_neg large, leads, low_le, le_high, decide_true, Bool.and_self, if_true,
    complete]

/-- Reading a character in front of others, once its first byte is known to lead it. -/
theorem chars_of_first {b : UInt8} (tail : Bytes) {rest : Bytes} {c : Char}
    (h : first b (tail ++ rest) = (c, tail.length)) :
    chars (b :: tail ++ rest) = c :: chars rest := by
  rw [List.cons_append, chars, h, List.drop_left]

section Leads

variable {n : Nat}

theorem toNat_ofNat_byte (byte : n < 256) : (UInt8.ofNat n).toNat = n :=
  UInt8.toNat_ofNat_of_lt' byte

/-- The cases of `lead` in terms of the byte's number. -/
theorem lead_ofNat (byte : n < 256) :
    lead (UInt8.ofNat n) =
      if 194 ≤ n ∧ n ≤ 223 then some (1, 0x80, 0xBF)
      else if n = 224 then some (2, 0xA0, 0xBF)
      else if n = 237 then some (2, 0x80, 0x9F)
      else if 225 ≤ n ∧ n ≤ 239 then some (2, 0x80, 0xBF)
      else if n = 240 then some (3, 0x90, 0xBF)
      else if 241 ≤ n ∧ n ≤ 243 then some (3, 0x80, 0xBF)
      else if n = 244 then some (3, 0x80, 0x8F)
      else none := by
  simp only [lead, UInt8.le_iff_toNat_le, ← UInt8.toNat_inj, beq_iff_eq, toNat_ofNat_byte byte,
    Bool.and_eq_true, decide_eq_true_eq]
  rfl

theorem lead_of_two (low : 0x80 ≤ n) (high : n ≤ 0x7ff) :
    lead (UInt8.ofNat (n / 64 % 32 + 192)) = some (1, 0x80, 0xBF) := by
  rw [lead_ofNat (by omega), if_pos (by omega)]

/-- Three bytes: neither overlong nor a surrogate. -/
theorem second_of_three (low : 0x800 ≤ n) (high : n ≤ 0xffff)
    (scalar : n < 0xD800 ∨ 0xDFFF < n) :
    ∃ least most, lead (UInt8.ofNat (n / 4096 % 16 + 224)) = some (2, least, most) ∧
      least ≤ trail (n / 64) ∧ trail (n / 64) ≤ most := by
  rw [lead_ofNat (by omega), if_neg (by omega)]
  simp only [UInt8.le_iff_toNat_le, toNat_trail]
  by_cases first : n / 4096 % 16 + 224 = 224
  · exact ⟨0xA0, 0xBF, if_pos first, by change 160 ≤ _; omega, by change _ ≤ 191; omega⟩
  by_cases last : n / 4096 % 16 + 224 = 237
  · refine ⟨0x80, 0x9F, ?_, by change 128 ≤ _; omega, by change _ ≤ 159; omega⟩
    rw [if_neg first, if_pos last]
  · refine ⟨0x80, 0xBF, ?_, by change 128 ≤ _; omega, by change _ ≤ 191; omega⟩
    rw [if_neg first, if_neg last, if_pos (by omega)]

/-- Four bytes: neither overlong nor above U+10FFFF. -/
theorem second_of_four (low : 0xffff < n) (scalar : n < 0x110000) :
    ∃ least most, lead (UInt8.ofNat (n / 262144 % 8 + 240)) = some (3, least, most) ∧
      least ≤ trail (n / 4096) ∧ trail (n / 4096) ≤ most := by
  rw [lead_ofNat (by omega), if_neg (by omega), if_neg (by omega), if_neg (by omega),
    if_neg (by omega)]
  simp only [UInt8.le_iff_toNat_le, toNat_trail]
  by_cases first : n / 262144 % 8 + 240 = 240
  · exact ⟨0x90, 0xBF, if_pos first, by change 144 ≤ _; omega, by change _ ≤ 191; omega⟩
  by_cases middle : 241 ≤ n / 262144 % 8 + 240 ∧ n / 262144 % 8 + 240 ≤ 243
  · refine ⟨0x80, 0xBF, ?_, by change 128 ≤ _; omega, by change _ ≤ 191; omega⟩
    rw [if_neg first, if_pos middle]
  · refine ⟨0x80, 0x8F, ?_, by change 128 ≤ _; omega, by change _ ≤ 143; omega⟩
    rw [if_neg first, if_neg middle, if_pos (by omega)]

end Leads

/-- The encoding by the number of bytes, the trailing ones named. -/
theorem utf8EncodeChar_eq (c : Char) :
    String.utf8EncodeChar c =
      if c.toNat ≤ 0x7f then [UInt8.ofNat c.toNat]
      else if c.toNat ≤ 0x7ff then [UInt8.ofNat (c.toNat / 64 % 32 + 192), trail c.toNat]
      else if c.toNat ≤ 0xffff then
        [UInt8.ofNat (c.toNat / 4096 % 16 + 224), trail (c.toNat / 64), trail c.toNat]
      else [UInt8.ofNat (c.toNat / 262144 % 8 + 240), trail (c.toNat / 4096), trail (c.toNat / 64),
        trail c.toNat] := rfl

theorem not_lt_of_lead {n : Nat} (byte : n < 256) (large : 128 ≤ n) :
    ¬ UInt8.ofNat n < 0x80 := by
  rw [UInt8.lt_iff_toNat_lt, toNat_ofNat_byte byte]
  exact Nat.not_lt.mpr large

section Characters

variable (c : Char) (rest : Bytes)

theorem chars_one (short : c.toNat ≤ 0x7f) :
    chars ([UInt8.ofNat c.toNat] ++ rest) = c :: chars rest := by
  have byte := toNat_ofNat_byte (n := c.toNat) (by omega)
  have small : UInt8.ofNat c.toNat < 0x80 := by
    rw [UInt8.lt_iff_toNat_lt, byte]
    exact Nat.lt_succ_of_le short
  refine chars_of_first [] ?_
  simp only [first, if_pos small, byte, Char.ofNat_toNat, List.length_nil]

theorem chars_two (long : 0x7f < c.toNat) (short : c.toNat ≤ 0x7ff) :
    chars ([UInt8.ofNat (c.toNat / 64 % 32 + 192), trail c.toNat] ++ rest) = c :: chars rest := by
  refine chars_of_first [trail c.toNat] ?_
  have least : (0x80 : UInt8) ≤ trail c.toNat := by
    rw [UInt8.le_iff_toNat_le, toNat_trail]
    exact Nat.le_add_left 128 _
  have most : trail c.toNat ≤ 0xBF := by
    rw [UInt8.le_iff_toNat_le, toNat_trail]
    change _ ≤ 191
    omega
  rw [List.singleton_append, first_of_lead (not_lt_of_lead (by omega) (by omega))
    (lead_of_two (by omega) short) least most rfl]
  have value : (c.toNat / 64 % 32 + 192) % 32 * 64 + c.toNat % 64 = c.toNat := by omega
  have power : Nat.pow 2 (6 - 1) = 32 := rfl
  simp only [power, List.take_succ_cons, List.take_zero, List.foldl_cons, List.foldl_nil, payload_trail,
    toNat_ofNat_byte (show c.toNat / 64 % 32 + 192 < 256 by omega), value, Char.ofNat_toNat,
    List.length_singleton]

theorem chars_three (long : 0x7ff < c.toNat) (short : c.toNat ≤ 0xffff)
    (scalar : c.toNat < 0xD800 ∨ 0xDFFF < c.toNat) :
    chars ([UInt8.ofNat (c.toNat / 4096 % 16 + 224), trail (c.toNat / 64), trail c.toNat] ++ rest) =
      c :: chars rest := by
  obtain ⟨low, high, leads, least, most⟩ := second_of_three (n := c.toNat) long short scalar
  refine chars_of_first [trail (c.toNat / 64), trail c.toNat] ?_
  have complete : continued (2 - 1) (trail c.toNat :: rest) + 1 = 2 := by
    simp [continued, isContinuation_trail]
  rw [List.cons_append, List.singleton_append,
    first_of_lead (not_lt_of_lead (by omega) (by omega)) leads least most complete]
  have value : ((c.toNat / 4096 % 16 + 224) % 16 * 64 + c.toNat / 64 % 64) * 64 +
      c.toNat % 64 = c.toNat := by omega
  have power : Nat.pow 2 (6 - 2) = 16 := rfl
  simp only [power, List.take_succ_cons, List.take_zero, List.foldl_cons, List.foldl_nil, payload_trail,
    toNat_ofNat_byte (show c.toNat / 4096 % 16 + 224 < 256 by omega), value, Char.ofNat_toNat,
    List.length_cons, List.length_nil]

theorem chars_four (long : 0xffff < c.toNat) (scalar : c.toNat < 0x110000) :
    chars ([UInt8.ofNat (c.toNat / 262144 % 8 + 240), trail (c.toNat / 4096), trail (c.toNat / 64),
      trail c.toNat] ++ rest) = c :: chars rest := by
  obtain ⟨low, high, leads, least, most⟩ := second_of_four (n := c.toNat) long scalar
  refine chars_of_first [trail (c.toNat / 4096), trail (c.toNat / 64), trail c.toNat] ?_
  have complete : continued (3 - 1) (trail (c.toNat / 64) :: trail c.toNat :: rest) + 1 = 3 := by
    simp [continued, isContinuation_trail]
  rw [List.cons_append, List.cons_append, List.singleton_append,
    first_of_lead (not_lt_of_lead (by omega) (by omega)) leads least most complete]
  have value : (((c.toNat / 262144 % 8 + 240) % 8 * 64 + c.toNat / 4096 % 64) * 64 +
      c.toNat / 64 % 64) * 64 + c.toNat % 64 = c.toNat := by omega
  have power : Nat.pow 2 (6 - 3) = 8 := rfl
  simp only [power, List.take_succ_cons, List.take_zero, List.foldl_cons, List.foldl_nil, payload_trail,
    toNat_ofNat_byte (show c.toNat / 262144 % 8 + 240 < 256 by omega), value, Char.ofNat_toNat,
    List.length_cons, List.length_nil]

theorem chars_utf8EncodeChar_append :
    chars (String.utf8EncodeChar c ++ rest) = c :: chars rest := by
  have scalar : c.toNat < 0xD800 ∨ (0xDFFF < c.toNat ∧ c.toNat < 0x110000) := c.valid
  rw [utf8EncodeChar_eq]
  split
  · exact chars_one c rest ‹_›
  split
  · exact chars_two c rest (by omega) ‹_›
  split
  · exact chars_three c rest (by omega) ‹_› (by omega)
  · exact chars_four c rest (by omega) (by omega)

end Characters

theorem chars_flatMap_utf8EncodeChar (cs : List Char) :
    chars (cs.flatMap String.utf8EncodeChar) = cs := by
  induction cs with
  | nil => rw [List.flatMap_nil, chars]
  | cons c cs ih => rw [List.flatMap_cons, chars_utf8EncodeChar_append, ih]

theorem decode_encode (s : String) : decode (encode s) = s := by
  rw [decode, encode, chars_flatMap_utf8EncodeChar, String.ofList_toList]

/-- A character below U+0080 is a byte of its own. -/
theorem utf8EncodeChar_of_ascii {c : Char} (ascii : c.toNat < 128) :
    String.utf8EncodeChar c = [UInt8.ofNat c.toNat] := by
  rw [utf8EncodeChar_eq, if_pos (by omega)]

/-- No byte of any other character is below 128. -/
theorem le_of_mem_utf8EncodeChar {c : Char} (wide : 128 ≤ c.toNat) {b : UInt8}
    (member : b ∈ String.utf8EncodeChar c) : 128 ≤ b.toNat := by
  have lead {n : Nat} (byte : n < 256) (large : 128 ≤ n) : 128 ≤ (UInt8.ofNat n).toNat := by
    rwa [toNat_ofNat_byte byte]
  have trails (n : Nat) : 128 ≤ (trail n).toNat := by
    rw [toNat_trail]
    omega
  rw [utf8EncodeChar_eq, if_neg (by omega)] at member
  split at member
  · rcases List.mem_cons.mp member with rfl | member
    · exact lead (by omega) (by omega)
    · cases List.mem_singleton.mp member
      exact trails _
  split at member
  · simp only [List.mem_cons, List.not_mem_nil, or_false] at member
    rcases member with rfl | rfl | rfl
    · exact lead (by omega) (by omega)
    · exact trails _
    · exact trails _
  · simp only [List.mem_cons, List.not_mem_nil, or_false] at member
    rcases member with rfl | rfl | rfl | rfl
    · exact lead (by omega) (by omega)
    · exact trails _
    · exact trails _
    · exact trails _

theorem length_utf8EncodeChar_le (c : Char) : (String.utf8EncodeChar c).length ≤ 4 := by
  rw [String.length_utf8EncodeChar]
  exact c.utf8Size_le_four

theorem continued_le (n : Nat) (b : Bytes) : continued n b ≤ b.length := by
  fun_induction continued n b with
  | case1 n b rest _ ih => exact Nat.succ_le_succ ih
  | case2 => exact Nat.zero_le _
  | case3 => exact Nat.zero_le _

theorem first_used_le (b : UInt8) (rest : Bytes) : (first b rest).2 ≤ rest.length := by
  fun_cases first b rest with
  | case2 _ more low high second others =>
    exact Nat.succ_le_succ (continued_le (more - 1) others)
  | case3 _ more low high second others =>
    exact Nat.succ_le_succ (continued_le (more - 1) others)
  | _ => exact Nat.zero_le _

/-- A character takes at most three times the bytes that it was read from: a byte that is no text
turns into three, and from two bytes on four are enough. -/
theorem length_first_le (b : UInt8) (rest : Bytes) :
    (String.utf8EncodeChar (first b rest).1).length ≤ 3 * ((first b rest).2 + 1) := by
  have replaced : (String.utf8EncodeChar replacement).length = 3 := rfl
  fun_cases first b rest with
  | case1 _ ascii =>
    have small : (Char.ofNat b.toNat).toNat ≤ 0x7f :=
      Nat.le_trans (toNat_charOfNat_le _) (Nat.le_of_lt_succ (UInt8.lt_iff_toNat_lt.mp ascii))
    rw [utf8EncodeChar_eq, if_pos small]
    exact Nat.le_of_ble_eq_true rfl
  | case2 _ more low high second others _ _ used _ _ =>
    refine Nat.le_trans (length_utf8EncodeChar_le _) ?_
    omega
  | _ =>
    rw [replaced]
    omega

/-- A text has at most three times the bytes that it was read from. -/
theorem length_encode_decode_le (b : Bytes) : (encode (decode b)).length ≤ 3 * b.length := by
  rw [encode, decode, String.toList_ofList]
  fun_induction chars b with
  | case1 => exact Nat.le_refl 0
  | case2 b rest ih =>
    have here := length_first_le b rest
    have used := first_used_le b rest
    rw [List.length_drop] at ih
    rw [List.flatMap_cons, List.length_append, List.length_cons]
    omega

end Datastream.Utf8
