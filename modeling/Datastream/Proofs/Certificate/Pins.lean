import Datastream.Certificate.Trust
import Datastream.Proofs.Text.Hex
import Datastream.Proofs.Text.Utf8

/-!
# Pins as they are read and as they are checked

A pin is read byte by byte, and the settings are checked character by character. What reading accepts
is a grammar of characters (`Spells`, `parse_eq_ok_iff`): only characters of a single byte count as
digits, so bytes and characters agree on every text. But reading takes a plus sign in front of a digit
for a zero, and the check does not. Where no plus sign is taken the two agree, and the pin is the bytes
that the digits spell (`strict_unless_plus_taken`).

The reader is `parse_fingerprint`, the check of the settings is part of `validate`.
-/
namespace Datastream

namespace Pin

/-- The characters of a text that are not passed over. -/
def marks (text : String) : List Char := text.toList.filter (· ≠ ':')

/-- The bytes that characters spell two by two; a plus sign in front of a digit stands for a zero. -/
inductive Spells : List Char → Bytes → Prop
  | nothing : Spells [] []
  | pair {a b : Char} {high low : Nat} {rest : List Char} {hash : Bytes}
      (first : Hex.value? a = some high) (second : Hex.value? b = some low)
      (later : Spells rest hash) : Spells (a :: b :: rest) (UInt8.ofNat (high * 16 + low) :: hash)
  | plus {b : Char} {low : Nat} {rest : List Char} {hash : Bytes} (second : Hex.value? b = some low)
      (later : Spells rest hash) : Spells ('+' :: b :: rest) (UInt8.ofNat low :: hash)

/-- A pin is read as strictly as it is checked: just pairs of digits are accepted, for the bytes that
they spell, and a pin of thirty-two bytes is just one in which the settings' check finds no problem. -/
structure Strict (text : String) : Prop where
  accepts : (∃ hash, parse text = .ok hash) ↔
    (marks text).length % 2 = 0 ∧ ∀ c ∈ marks text, TlsConfig.isHexDigit c = true
  spells : ∀ hash, parse text = .ok hash → Hex.decodeChars? (marks text) = some hash
  checked : ∀ (exist : String → Bool) (t : TlsConfig) (transport : TransportConfig),
    (∃ hash, parse text = .ok hash ∧ hash.length = 32) ↔
      TlsConfig.problems exist { t with pinnedSha256 := some text } transport =
        TlsConfig.problems exist { t with pinnedSha256 := none } transport

/-- A character below U+0080 is read back from its byte. -/
theorem char_of_byte {c : Char} (ascii : c.toNat < 128) :
    Char.ofNat (UInt8.ofNat c.toNat).toNat = c := by
  rw [Utf8.toNat_ofNat_byte (by omega), Char.ofNat_toNat]

theorem byte_ne_of_ne {c : Char} (ascii : c.toNat < 128) (d : UInt8) (other : c ≠ Char.ofNat d.toNat) :
    UInt8.ofNat c.toNat ≠ d := by
  rintro rfl
  exact other (char_of_byte ascii).symm

/-- No byte of another character is a colon. -/
theorem filter_utf8EncodeChar {c : Char} (other : c ≠ ':') :
    (String.utf8EncodeChar c).filter (· ≠ 58) = String.utf8EncodeChar c := by
  apply List.filter_eq_self.mpr
  intro b member
  apply decide_eq_true
  rcases Nat.lt_or_ge c.toNat 128 with ascii | wide
  · rw [Utf8.utf8EncodeChar_of_ascii ascii, List.mem_singleton] at member
    rw [member]
    exact byte_ne_of_ne ascii 58 other
  · have large := Utf8.le_of_mem_utf8EncodeChar wide member
    rintro rfl
    exact absurd large (by decide)

/-- The bytes that are read are those of the characters that are not passed over. -/
theorem filter_encode (text : String) :
    (Utf8.encode text).filter (· ≠ 58) = (marks text).flatMap String.utf8EncodeChar := by
  rw [Utf8.encode, marks]
  induction text.toList with
  | nil => rfl
  | cons c cs ih =>
    rw [List.flatMap_cons, List.filter_append, ih]
    by_cases colon : c = ':'
    · subst colon
      rfl
    · have kept : (c :: cs).filter (· ≠ ':') = c :: cs.filter (· ≠ ':') :=
        List.filter_cons_of_pos (decide_eq_true colon)
      rw [filter_utf8EncodeChar colon, kept, List.flatMap_cons]

/-- A byte with the value of a digit is below 128. -/
theorem toNat_of_value? {b : UInt8} {n : Nat} (h : Hex.value? (Char.ofNat b.toNat) = some n) :
    b.toNat < 128 := by
  have byte := b.toNat_lt
  have code : (Char.ofNat b.toNat).toNat = b.toNat := by
    unfold Char.ofNat
    rw [dif_pos (Or.inl (by omega))]
    rfl
  rw [← code]
  exact Hex.toNat_of_value? h

theorem byte?_plus (low : UInt8) :
    byte? 43 low = (Hex.value? (Char.ofNat low.toNat)).map UInt8.ofNat := by
  cases digit : Hex.value? (Char.ofNat low.toNat) with
  | none => simp [byte?, digit]
  | some n => simp [byte?, digit]

theorem byte?_digit {high : UInt8} (digit : high ≠ 43) (low : UInt8) :
    byte? high low = (Hex.value? (Char.ofNat high.toNat)).bind fun h =>
      (Hex.value? (Char.ofNat low.toNat)).map fun l => UInt8.ofNat (h * 16 + l) := by
  cases first : Hex.value? (Char.ofNat high.toNat) <;>
    cases second : Hex.value? (Char.ofNat low.toNat) <;>
    simp [byte?, digit, first, second]

theorem lt_of_byte? {high low x : UInt8} (h : byte? high low = some x) :
    high.toNat < 128 ∧ low.toNat < 128 := by
  by_cases plus : high = 43
  · subst plus
    rw [byte?_plus, Option.map_eq_some_iff] at h
    obtain ⟨l, second, -⟩ := h
    exact ⟨by decide, toNat_of_value? second⟩
  · rw [byte?_digit plus, Option.bind_eq_some_iff] at h
    obtain ⟨u, first, h⟩ := h
    obtain ⟨l, second, -⟩ := Option.map_eq_some_iff.mp h
    exact ⟨toNat_of_value? first, toNat_of_value? second⟩

theorem pairs?_cons_eq_some_iff {high low : UInt8} {rest hash : Bytes} :
    pairs? (high :: low :: rest) = some hash ↔
      ∃ x tail, byte? high low = some x ∧ pairs? rest = some tail ∧ x :: tail = hash := by
  rw [pairs?]
  simp [Option.bind_eq_some_iff]

/-- No byte of a wide character is read. -/
theorem lt_of_pairs? {bytes hash : Bytes} (even : bytes.length % 2 = 0)
    (h : pairs? bytes = some hash) : ∀ b ∈ bytes, b.toNat < 128 := by
  fun_induction pairs? bytes generalizing hash with
  | case1 high low rest ih =>
    obtain ⟨x, tail, read, later, -⟩ := pairs?_cons_eq_some_iff.mp h
    have both := lt_of_byte? read
    have behind := ih (by simp only [List.length_cons] at even; omega) later
    exact List.forall_mem_cons.mpr ⟨both.1, List.forall_mem_cons.mpr ⟨both.2, behind⟩⟩
  | case2 bytes single =>
    match bytes with
    | [] => nofun
    | [b] => cases even
    | high :: low :: rest => exact absurd rfl (single high low rest)

theorem ascii_of_bytes {cs : List Char}
    (small : ∀ b ∈ cs.flatMap String.utf8EncodeChar, b.toNat < 128) : ∀ c ∈ cs, c.toNat < 128 := by
  intro c member
  rcases Nat.lt_or_ge c.toNat 128 with ascii | wide
  · exact ascii
  · obtain ⟨b, within⟩ := List.exists_mem_of_ne_nil _ (String.utf8EncodeChar_ne_nil (c := c))
    have large := Utf8.le_of_mem_utf8EncodeChar wide within
    have low := small b (List.mem_flatMap.mpr ⟨c, member, within⟩)
    omega

theorem flatMap_of_ascii {cs : List Char} (ascii : ∀ c ∈ cs, c.toNat < 128) :
    cs.flatMap String.utf8EncodeChar = cs.map fun c => UInt8.ofNat c.toNat := by
  induction cs with
  | nil => rfl
  | cons c cs ih =>
    obtain ⟨here, behind⟩ := List.forall_mem_cons.mp ascii
    rw [List.flatMap_cons, Utf8.utf8EncodeChar_of_ascii here, ih behind]
    rfl

theorem Spells.ascii {cs : List Char} {hash : Bytes} (spells : Spells cs hash) :
    ∀ c ∈ cs, c.toNat < 128 := by
  induction spells with
  | nothing => nofun
  | pair first second later ih =>
    exact List.forall_mem_cons.mpr ⟨Hex.toNat_of_value? first,
      List.forall_mem_cons.mpr ⟨Hex.toNat_of_value? second, ih⟩⟩
  | plus second later ih =>
    exact List.forall_mem_cons.mpr ⟨by decide,
      List.forall_mem_cons.mpr ⟨Hex.toNat_of_value? second, ih⟩⟩

theorem Spells.length {cs : List Char} {hash : Bytes} (spells : Spells cs hash) :
    cs.length = 2 * hash.length := by
  induction spells with
  | nothing => rfl
  | pair first second later ih =>
    simp only [List.length_cons, ih]
    omega
  | plus second later ih =>
    simp only [List.length_cons, ih]
    omega

theorem pairs?_of_spells {cs : List Char} {hash : Bytes} (spells : Spells cs hash) :
    pairs? (cs.map fun c => UInt8.ofNat c.toNat) = some hash := by
  induction spells with
  | nothing => rfl
  | @pair a b high low rest hash first second later ih =>
    have digit : UInt8.ofNat a.toNat ≠ 43 := by
      apply byte_ne_of_ne (Hex.toNat_of_value? first)
      rintro rfl
      cases first
    apply pairs?_cons_eq_some_iff.mpr
    refine ⟨_, hash, ?_, ih, rfl⟩
    rw [byte?_digit digit, char_of_byte (Hex.toNat_of_value? first),
      char_of_byte (Hex.toNat_of_value? second), first, second]
    rfl
  | @plus b low rest hash second later ih =>
    apply pairs?_cons_eq_some_iff.mpr
    refine ⟨_, hash, ?_, ih, rfl⟩
    change byte? 43 _ = _
    rw [byte?_plus, char_of_byte (Hex.toNat_of_value? second), second]
    rfl

theorem spells_of_pairs? : ∀ {cs : List Char} {hash : Bytes}, cs.length % 2 = 0 →
    (∀ c ∈ cs, c.toNat < 128) → pairs? (cs.map fun c => UInt8.ofNat c.toNat) = some hash →
    Spells cs hash
  | [], hash, _, _, h => by
    cases h
    exact .nothing
  | [c], hash, even, _, _ => by cases even
  | a :: b :: rest, hash, even, ascii, h => by
    obtain ⟨ha, behind⟩ := List.forall_mem_cons.mp ascii
    obtain ⟨hb, later⟩ := List.forall_mem_cons.mp behind
    obtain ⟨x, tail, read, others, rfl⟩ := pairs?_cons_eq_some_iff.mp h
    have spelt : Spells rest tail :=
      spells_of_pairs? (by simp only [List.length_cons] at even; omega) later others
    by_cases plus : a = '+'
    · subst plus
      change byte? 43 _ = _ at read
      rw [byte?_plus, char_of_byte hb, Option.map_eq_some_iff] at read
      obtain ⟨low, second, rfl⟩ := read
      exact .plus second spelt
    · rw [byte?_digit (byte_ne_of_ne ha 43 plus), char_of_byte ha, char_of_byte hb,
        Option.bind_eq_some_iff] at read
      obtain ⟨high, first, read⟩ := read
      obtain ⟨low, second, rfl⟩ := Option.map_eq_some_iff.mp read
      exact .pair first second spelt

/-- What is accepted is what the grammar spells. The bytes of a wide character are no digits, so a text
that has one is refused however it is cut into pairs. -/
theorem parse_eq_ok_iff (text : String) (hash : Bytes) :
    parse text = .ok hash ↔ Spells (marks text) hash := by
  unfold parse
  simp only [filter_encode]
  constructor
  · intro read
    split at read
    · cases read
    rename_i even
    have even : ((marks text).flatMap String.utf8EncodeChar).length % 2 = 0 := by omega
    split at read
    · rename_i hash' pairs
      cases read
      have ascii := ascii_of_bytes (lt_of_pairs? even pairs)
      rw [flatMap_of_ascii ascii] at even pairs
      rw [List.length_map] at even
      exact spells_of_pairs? even ascii pairs
    · cases read
  · intro spells
    rw [flatMap_of_ascii spells.ascii, pairs?_of_spells spells, List.length_map, spells.length,
      if_neg (by omega)]

theorem spells_of_decode : ∀ {cs : List Char} {hash : Bytes}, Hex.decodeChars? cs = some hash →
    Spells cs hash
  | [], hash, h => by
    cases h
    exact .nothing
  | [c], hash, h => by cases h
  | a :: b :: rest, hash, h => by
    simp only [Hex.decodeChars?, bind, Option.bind_eq_some_iff, pure, Option.some.injEq] at h
    obtain ⟨high, first, low, second, tail, later, rfl⟩ := h
    exact .pair first second (spells_of_decode later)

/-- Where no plus sign is taken, the digits are read as everywhere else. -/
theorem Spells.decode {cs : List Char} {hash : Bytes} (spells : Spells cs hash) (plain : '+' ∉ cs) :
    Hex.decodeChars? cs = some hash := by
  induction spells with
  | nothing => rfl
  | pair first second later ih =>
    have behind := ih (fun member => plain (.tail _ (.tail _ member)))
    rw [Hex.decodeChars?_cons first second, behind]
    rfl
  | plus second later ih => exact absurd (.head _) plain

theorem plus_mem_marks (text : String) : '+' ∈ marks text ↔ '+' ∈ text.toList := by
  simp [marks]

theorem isHexDigit_eq (c : Char) : TlsConfig.isHexDigit c = (Hex.value? c).isSome := by
  unfold TlsConfig.isHexDigit Hex.value?
  split
  · simp_all
  split
  · simp_all
  split
  · simp_all
  · simp_all

/-- A text that is digits in pairs spells a hash. -/
theorem exists_decode_iff (text : String) :
    (∃ hash, Hex.decodeChars? (marks text) = some hash) ↔
      (marks text).length % 2 = 0 ∧ ∀ c ∈ marks text, TlsConfig.isHexDigit c = true := by
  simp only [isHexDigit_eq]
  rw [← Option.isSome_iff_exists, Hex.isSome_decodeChars?_iff]

/-- What the settings' check looks for is thirty-two bytes in digits. -/
theorem pinOk_iff (text : String) :
    TlsConfig.pinOk text = true ↔
      ∃ hash, Hex.decodeChars? (marks text) = some hash ∧ hash.length = 32 := by
  have check : TlsConfig.pinOk text = true ↔
      (marks text).length = 64 ∧ ∀ c ∈ marks text, TlsConfig.isHexDigit c = true := by
    simp only [TlsConfig.pinOk, marks, Bool.and_eq_true, decide_eq_true_eq, List.all_eq_true]
  rw [check]
  constructor
  · rintro ⟨long, digits⟩
    obtain ⟨hash, decoded⟩ := (exists_decode_iff text).mpr ⟨by rw [long], digits⟩
    have length := Hex.length_of_decodeChars? decoded
    exact ⟨hash, decoded, by omega⟩
  · rintro ⟨hash, decoded, length⟩
    have long := Hex.length_of_decodeChars? decoded
    exact ⟨by omega, ((exists_decode_iff text).mp ⟨hash, decoded⟩).2⟩

end Pin

/-- The settings' check objects to a pin just if it is not the hash of a certificate. -/
theorem TlsConfig.problems_of_pin (exist : String → Bool) (t : TlsConfig) (transport : TransportConfig)
    (text : String) :
    TlsConfig.problems exist { t with pinnedSha256 := some text } transport =
        TlsConfig.problems exist { t with pinnedSha256 := none } transport ↔
      TlsConfig.pinOk text = true := by
  simp [problems, problem]

namespace Pin

/-- A reader that accepts what decoding accepts is strict. -/
theorem strict_of_decode {text : String}
    (same : ∀ hash, parse text = .ok hash ↔ Hex.decodeChars? (marks text) = some hash) :
    Strict text where
  accepts := by
    rw [← exists_decode_iff]
    exact exists_congr same
  spells hash read := (same hash).mp read
  checked exist t transport := by
    rw [TlsConfig.problems_of_pin, pinOk_iff]
    simp only [same]

theorem strict_iff (text : String) :
    Strict text ↔ ¬ ((∃ hash, parse text = .ok hash) ∧ '+' ∈ text.toList) := by
  constructor
  · rintro strict ⟨read, plus⟩
    have digit := (strict.accepts.mp read).2 '+' ((plus_mem_marks text).mpr plus)
    exact absurd digit (by decide)
  · intro untaken
    apply strict_of_decode
    intro hash
    constructor
    · intro read
      apply ((parse_eq_ok_iff text hash).mp read).decode
      rw [plus_mem_marks]
      exact fun plus => untaken ⟨⟨hash, read⟩, plus⟩
    · intro decoded
      exact (parse_eq_ok_iff text hash).mpr (spells_of_decode decoded)

/-- What is read as a pin is what the grammar spells. A text is read as strictly as the settings' check
takes it unless it is read with a plus sign in it, and then it is not. Bytes in digits of either case,
with colons wherever one likes, are read back. -/
theorem strict_unless_plus_taken (text : String) :
    (∀ hash, parse text = .ok hash ↔ Spells (marks text) hash) ∧
    (Strict text ↔ ¬ ((∃ hash, parse text = .ok hash) ∧ '+' ∈ text.toList)) ∧
    ∀ b : Bytes, marks text = Hex.chars b ∨ marks text = (Hex.chars b).map Char.toUpper →
      parse text = .ok b := by
  refine ⟨parse_eq_ok_iff text, strict_iff text, ?_⟩
  intro b written
  apply (parse_eq_ok_iff text b).mpr
  apply spells_of_decode
  rcases written with lower | upper
  · rw [lower, Hex.decodeChars?_chars]
  · rw [upper, Hex.decodeChars?_toUpper_chars]

/-- Three bytes in upper-case digits, with colons also inside a byte. -/
theorem colons_passed_over :
    marks "0A:FF:1:0" = (Hex.chars [10, 255, 16]).map Char.toUpper ∧
    parse "0A:FF:1:0" = .ok [10, 255, 16] ∧ Strict "0A:FF:1:0" := by
  have written : marks "0A:FF:1:0" = (Hex.chars [10, 255, 16]).map Char.toUpper := by decide
  obtain ⟨-, strict, back⟩ := strict_unless_plus_taken "0A:FF:1:0"
  refine ⟨written, back _ (.inr written), ?_⟩
  apply strict.mpr
  rintro ⟨-, plus⟩
  exact absurd plus (by decide)

/-- A plus sign in front of a digit is read as a zero, which is not strict; thirty-two times over it is
read as the hash of a certificate, and the settings' check objects. -/
theorem plus_read_as_zero :
    parse "+f" = .ok [15] ∧ ¬ Strict "+f" ∧
    parse (String.ofList (List.replicate 32 ['+', 'f']).flatten) = .ok (List.replicate 32 15) ∧
    TlsConfig.pinOk (String.ofList (List.replicate 32 ['+', 'f']).flatten) = false := by
  have digit : Hex.value? 'f' = some 15 := rfl
  have read : parse "+f" = .ok [15] := (parse_eq_ok_iff "+f" [15]).mpr (.plus digit .nothing)
  have repeated (n : Nat) : Spells (List.replicate n ['+', 'f']).flatten (List.replicate n 15) := by
    induction n with
    | zero => exact .nothing
    | succ n ih => exact .plus digit ih
  refine ⟨read, ?_, ?_, ?_⟩
  · rw [strict_iff]
    exact fun untaken => untaken ⟨⟨_, read⟩, by decide⟩
  · apply (parse_eq_ok_iff _ _).mpr
    have all : marks (String.ofList (List.replicate 32 ['+', 'f']).flatten) =
        (List.replicate 32 ['+', 'f']).flatten := by
      rw [marks, String.toList_ofList]
      decide
    rw [all]
    exact repeated 32
  · rw [TlsConfig.pinOk, String.toList_ofList]
    decide

end Pin
end Datastream
