import Datastream.Text.Hex

/-!
# Hexadecimal round trip

A digit of either case has the value that it writes (`value?_digit`, `value?_toUpper_digit`), so digits
in pairs are read back as the bytes that wrote them. Reading succeeds just for pairs of digits
(`isSome_decodeChars?_iff`).
-/
namespace Datastream.Hex

theorem value?_digit {n : Nat} (single : n < 16) : value? (digit n) = some n := by
  have all : ∀ n : Fin 16, value? (digit n.val) = some n.val := by decide
  exact all ⟨n, single⟩

theorem value?_toUpper_digit {n : Nat} (single : n < 16) : value? (digit n).toUpper = some n := by
  have all : ∀ n : Fin 16, value? (digit n.val).toUpper = some n.val := by decide
  exact all ⟨n, single⟩

/-- A digit is a character of a single byte. -/
theorem toNat_of_value? {c : Char} {n : Nat} (h : value? c = some n) : c.toNat < 128 := by
  have below {top : Char} (le : c ≤ top) (small : top.toNat < 128) : c.toNat < 128 :=
    Nat.lt_of_le_of_lt (Char.le_def.mp le) small
  unfold value? at h
  split at h
  · rename_i decimal
    exact below decimal.2 (by decide)
  split at h
  · rename_i lower
    exact below lower.2 (by decide)
  split at h
  · rename_i upper
    exact below upper.2 (by decide)
  · cases h

/-- A byte is put together from its two digits. -/
theorem ofNat_digits (x : UInt8) : UInt8.ofNat (x.toNat / 16 * 16 + x.toNat % 16) = x := by
  rw [Nat.div_add_mod' x.toNat 16, UInt8.ofNat_toNat]

theorem decodeChars?_cons {a b : Char} {high low : Nat} (ha : value? a = some high)
    (hb : value? b = some low) (rest : List Char) :
    decodeChars? (a :: b :: rest) =
      (decodeChars? rest).map (UInt8.ofNat (high * 16 + low) :: ·) := by
  rw [decodeChars?, ha, hb]
  cases decodeChars? rest <;> rfl

theorem decodeChars?_chars (b : Bytes) : decodeChars? (chars b) = some b := by
  induction b with
  | nil => rfl
  | cons x b ih =>
    have byte := x.toNat_lt
    change decodeChars? (digit (x.toNat / 16) :: digit (x.toNat % 16) :: chars b) = _
    rw [decodeChars?_cons (value?_digit (by omega)) (value?_digit (by omega)), ih, ofNat_digits]
    rfl

theorem decodeChars?_toUpper_chars (b : Bytes) : decodeChars? ((chars b).map Char.toUpper) = some b := by
  induction b with
  | nil => rfl
  | cons x b ih =>
    have byte := x.toNat_lt
    change decodeChars? ((digit (x.toNat / 16)).toUpper :: (digit (x.toNat % 16)).toUpper ::
      (chars b).map Char.toUpper) = _
    rw [decodeChars?_cons (value?_toUpper_digit (by omega)) (value?_toUpper_digit (by omega)), ih,
      ofNat_digits]
    rfl

/-- Two digits make a byte. -/
theorem length_of_decodeChars? {cs : List Char} {b : Bytes} (h : decodeChars? cs = some b) :
    cs.length = 2 * b.length := by
  fun_induction decodeChars? cs generalizing b with
  | case1 => cases h; rfl
  | case2 => cases h
  | case3 a c rest ih =>
    simp only [bind, Option.bind_eq_some_iff, pure, Option.some.injEq] at h
    obtain ⟨high, -, low, -, tail, decoded, rfl⟩ := h
    have shorter := ih decoded
    simp only [List.length_cons, shorter]
    omega

/-- What is read is pairs of digits, and all of these are read. -/
theorem isSome_decodeChars?_iff (cs : List Char) :
    (decodeChars? cs).isSome = true ↔ cs.length % 2 = 0 ∧ ∀ c ∈ cs, (value? c).isSome = true := by
  fun_induction decodeChars? cs with
  | case1 => simp
  | case2 c => simp
  | case3 a c rest ih =>
    have even : (a :: c :: rest).length % 2 = rest.length % 2 := by
      simp only [List.length_cons]
      omega
    rw [even, List.forall_mem_cons, List.forall_mem_cons]
    change (decodeChars? (a :: c :: rest)).isSome = true ↔ _
    cases ha : value? a with
    | none => simp [decodeChars?, ha]
    | some high =>
      cases hc : value? c with
      | none => simp [decodeChars?, hc]
      | some low =>
        rw [decodeChars?_cons ha hc, Option.isSome_map, ih]
        simp

end Datastream.Hex
