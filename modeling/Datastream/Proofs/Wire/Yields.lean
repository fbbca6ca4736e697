import Datastream.Proofs.Value.Normal
import Datastream.Proofs.Wire.Delimited
import Datastream.Proofs.Wire.Limits

/-!
# What readers give

`Yields read P` says of a reader what its results are like, given the number of bytes that they were
read from. The readers are lenient: bytes that are no text, flags without a meaning, bytes for true
other than one and unknown specs of time are all read as something. But what they are read as is in
normal form, and no longer than a small multiple of the bytes that it was read from. So it can be
written again, and reads as itself.
-/
namespace Datastream

/-- Whenever the reader succeeds, `P` holds of the number of bytes taken and of what was read. -/
def Yields {α : Type} (read : Reader α) (P : Nat → α → Prop) : Prop :=
  ∀ input a rest, read input = .ok a rest → ∃ n, input.length = n + rest.length ∧ P n a

section Readers

variable {α β : Type} {read : Reader α} {next : α → Reader β} {P : Nat → α → Prop}
  {Q : Nat → β → Prop}

/-- Of a reader of bytes that end by themselves nothing need be known. -/
theorem SelfDelimiting.yields (h : SelfDelimiting read) : Yields read fun _ _ => True := by
  intro input a rest run
  obtain ⟨used, rfl, _⟩ := h input a rest run
  exact ⟨used.length, List.length_append, trivial⟩

namespace Yields

theorem pure {a : α} (h : P 0 a) : Yields (Pure.pure a : Reader α) P := by
  intro input b rest run
  cases run
  exact ⟨0, (Nat.zero_add _).symm, h⟩

theorem fail (error : Error) : Yields (throw error : Reader α) P := by
  intro input a rest run
  exact absurd run Reader.throw_ne_ok

theorem weaken {P' : Nat → α → Prop} (h : Yields read P) (weaker : ∀ n a, P n a → P' n a) :
    Yields read P' := by
  intro input a rest run
  obtain ⟨n, taken, holds⟩ := h input a rest run
  exact ⟨n, taken, weaker n a holds⟩

/-- The bytes of a sequence are those of its parts together. -/
theorem bind (first : Yields read P)
    (second : ∀ n a, P n a → Yields (next a) fun m b => Q (n + m) b) : Yields (read >>= next) Q := by
  intro input b rest run
  obtain ⟨a, left, run, run_next⟩ := Reader.bind_eq_ok_iff.mp run
  obtain ⟨n, taken, holds⟩ := first input a left run
  obtain ⟨m, taken_next, holds_next⟩ := second n a holds left b rest run_next
  exact ⟨n + m, by omega, holds_next⟩

theorem map {f : α → β} (h : Yields read P) (value : ∀ n a, P n a → Q n (f a)) :
    Yields (f <$> read) Q := by
  rw [map_eq_pure_bind]
  exact h.bind fun n a holds => pure (value n a holds)

/-- What is only said of the number of bytes stays true whatever is made of them. -/
theorem fmap {p : Nat → Prop} (f : α → β) (h : Yields read fun n _ => p n) :
    Yields (f <$> read) fun n _ => p n :=
  h.map fun _ _ holds => holds

/-- The last field of a record, after which nothing is read. -/
theorem bind_pure {f : α → β} (h : Yields read P) (value : ∀ n a, P n a → Q n (f a)) :
    Yields (read >>= fun a => Pure.pure (f a)) Q :=
  h.bind fun n a holds => pure (value n a holds)

theorem ite {p : Prop} [Decidable p] {other : Reader α} (h : p → Yields read P)
    (h' : ¬p → Yields other P) : Yields (if p then read else other) P := by
  split
  · exact h ‹p›
  · exact h' ‹¬p›

theorem take (n : Nat) : Yields (Reader.take n) fun m b => m = n ∧ b.length = n := by
  intro input b rest run
  obtain ⟨rfl, rfl⟩ := Reader.append_of_take run
  exact ⟨b.length, List.length_append, rfl, rfl⟩

theorem number (width : Nat) : Yields (Reader.number width) fun n _ => n = width :=
  (take width).map fun _ _ taken => taken.1

theorem ensure (n : Nat) : Yields (Reader.ensure n) fun m _ => m = 0 := by
  intro input a rest run
  unfold Reader.ensure at run
  split at run
  · cases run
    exact ⟨0, (Nat.zero_add _).symm, rfl⟩
  · cases run

section Times

variable (item : Yields read P) (mono : ∀ {m n a}, m ≤ n → P m a → P n a)
  (paid : ∀ {n a}, P n a → 0 < n)

include item mono paid

/-- `done` holds the items before, for which `spent` bytes were taken. -/
theorem times_go (n : Nat) (done : List α) (spent : Nat) (few : done.length ≤ spent)
    (fine : ∀ a ∈ done, P spent a) :
    Yields (Reader.times.go read n done) fun m items =>
      items.length ≤ spent + m ∧ ∀ a ∈ items, P (spent + m) a := by
  induction n generalizing done spent with
  | zero =>
    refine pure ⟨?_, ?_⟩
    · rw [List.length_reverse]
      exact few
    · intro a member
      exact fine a (List.mem_reverse.mp member)
  | succ n ih =>
    refine item.bind fun m a holds => ?_
    have one := paid holds
    have later := ih (a :: done) (spent + m) (by rw [List.length_cons]; omega)
      (List.forall_mem_cons.mpr ⟨mono (by omega) holds, fun b member =>
        mono (by omega) (fine b member)⟩)
    simpa only [Nat.add_assoc] using later

/-- Items that take a byte at least are no more than the bytes. -/
theorem times (n : Nat) :
    Yields (Reader.times n read) fun m items => items.length ≤ m ∧ ∀ a ∈ items, P m a := by
  have all := times_go item mono paid n [] 0 (Nat.le_refl 0) (List.forall_mem_nil _)
  simp only [Nat.zero_add] at all
  exact all

end Times

end Yields

end Readers

namespace Wire

theorem yields_int32 : Yields readInt32 fun n _ => n = 4 :=
  ((Yields.number 4).fmap UInt32.ofNat).fmap UInt32.toInt32

theorem yields_bool : Yields readBool fun n _ => n = 1 :=
  ((Yields.number 1).fmap UInt8.ofNat).fmap (· != 0)

theorem yields_length : Yields readLength fun n _ => n = 4 := by
  refine yields_int32.bind fun n _ four =>
    .ite (fun _ => .pure four) fun _ => .ite (fun _ => .fail _) fun _ => ?_
  refine (Yields.ensure _).bind fun m _ none => .pure ?_
  omega

theorem yields_bytes : Yields readBytes fun n b => ∀ x ∈ b, x.length ≤ n := by
  refine yields_length.bind fun n length _ => ?_
  cases length with
  | none => exact .pure (by simp)
  | some length =>
    refine (Yields.take length).map fun m b taken x member => ?_
    obtain rfl := Option.mem_some.mp member
    omega

theorem yields_utf8 : Yields readUtf8 fun n s => ∀ text ∈ s, (Utf8.encode text).length ≤ 3 * n := by
  refine yields_bytes.map fun n b small text member => ?_
  obtain ⟨x, there, rfl⟩ := Option.map_eq_some_iff.mp member
  have length := small x there
  have grown := Utf8.length_encode_decode_le x
  omega

theorem length_units_le (b : Bytes) : (units b).length * 2 ≤ b.length := by
  fun_induction units b with
  | case1 x y rest ih =>
    simp only [List.length_cons]
    omega
  | case2 => exact Nat.zero_le _

theorem yields_utf16 :
    Yields readUtf16 fun n s => 0 < n ∧ ∀ text ∈ s, (Utf16.encode text).length * 2 ≤ n := by
  refine yields_length.bind fun n length four => ?_
  cases length with
  | none => exact .pure ⟨by omega, by simp⟩
  | some length =>
    refine .ite (fun _ => .fail _) fun _ => (Yields.take length).bind fun m b taken => .pure ?_
    refine ⟨by omega, fun text member => ?_⟩
    obtain rfl := Option.mem_some.mp member
    have shrunk := Utf16.length_encode_decode_le (units b)
    have halved := length_units_le b
    omega

theorem yields_time : Yields readTime fun _ t => t.wholeMillis = t := by
  refine yields_int32.bind fun n millis _ => ?_
  dsimp only
  split
  · rename_i t found
    split at found
    · cases found
    · exact .pure (TimeOfDay.wholeMillis_of_ofMillis found)
  · exact .fail _

/-- An offset that is claimed is there. -/
theorem yields_dateTime : Yields readDateTime fun _ t =>
    t.normalize = t ∧ ∀ reading, t ≠ .unanchored reading .offsetFromUtc := by
  refine delimited_date.yields.bind fun _ date _ => yields_time.bind fun _ time whole =>
    delimited_int8.yields.bind fun _ spec _ => ?_
  have same : Reading.wholeMillis ⟨date, time⟩ = ⟨date, time⟩ := by
    rw [Reading.wholeMillis, whole]
  split
  · refine .pure ⟨?_, by simp⟩
    rw [DateTime.normalize, same]
  · refine delimited_int32.yields.bind fun _ seconds _ => ?_
    split
    · exact .fail _
    · rename_i offset _
      split
      · exact .fail _
      · rename_i value found
        refine .pure ⟨?_, by simp⟩
        unfold OffsetReading.of? at found
        split at found
        · cases found
          simp only [DateTime.normalize, OffsetReading.wholeMillis, same]
        · cases found
  · rename_i no_utc no_offset
    generalize TimeSpec.ofInt8 spec = spec at no_utc no_offset ⊢
    refine .pure ⟨?_, ?_⟩
    · cases spec with
      | utc => exact absurd rfl no_utc
      | _ => simp only [DateTime.normalize, same]
    · intro reading claim
      exact no_offset (DateTime.unanchored.inj claim).2

variable (f : FeatureSet)

theorem yields_msgId : Yields (readMsgId f) fun _ id => id.normalize f = id := by
  refine .ite (fun long => ?_) (fun short => ?_)
  · exact delimited_int64.yields.bind_pure fun _ id _ => if_pos long
  · refine delimited_int32.yields.bind_pure fun _ id _ => ?_
    rw [MsgId.normalize, if_neg short]
    simp

/-- A time that is read as seconds fits its field again. -/
theorem yields_messageTime : Yields (readMessageTime f) fun _ t =>
    (if f.has .longTime then t.wholeMillis else t.wholeSeconds) = t ∧
      (f.has .longTime = true ∨ -2147483648 ≤ t.seconds ∧ t.seconds ≤ 2147483647) := by
  refine .ite (fun long => ?_) (fun short => ?_)
  · refine delimited_int64.yields.bind fun _ millis _ => ?_
    cases found : Reading.ofMillis? millis.toInt with
    | none => exact .fail _
    | some t =>
      refine .pure ?_
      rw [if_pos long]
      exact ⟨Reading.wholeMillis_of_ofMillis found, .inl long⟩
  · refine delimited_int32.yields.bind fun _ seconds _ => ?_
    cases found : Reading.ofSeconds? seconds.toInt 0 with
    | none => exact .fail _
    | some t =>
      have lower := seconds.le_toInt
      have upper := seconds.toInt_le
      refine .pure ?_
      rw [if_neg short, (Reading.seconds_of_ofSeconds found).1]
      exact ⟨Reading.wholeSeconds_of_ofSeconds found, .inr ⟨lower, upper⟩⟩

theorem yields_bufferInfo : Yields readBufferInfo fun n info =>
    info.normalize = info ∧ ∀ text ∈ info.name, (Utf8.encode text).length ≤ 3 * n := by
  refine delimited_int32.yields.bind fun a _ _ => delimited_int32.yields.bind fun b _ _ =>
    delimited_uint16.yields.bind fun c type _ => delimited_int32.yields.bind fun d _ _ =>
    yields_utf8.bind_pure fun n name small => ⟨?_, fun text member => ?_⟩
  · simp only [BufferInfo.normalize, Flags.normalize_truncate]
  · have length := small text member
    omega

theorem yields_messageText :
    Yields readMessageText fun n text => (Utf8.encode text).length ≤ 3 * n := by
  refine yields_utf8.map fun n s small => ?_
  cases s with
  | none => exact Nat.zero_le _
  | some text => exact small text rfl

theorem yields_optionalText (feature : Feature) : Yields (readOptionalText f feature) fun n text =>
    f.keep feature text = text ∧ (Utf8.encode text).length ≤ 3 * n := by
  refine .ite (fun has => ?_) (fun lacks => ?_)
  · exact yields_messageText.weaken fun n text small => ⟨if_pos has, small⟩
  · exact .pure ⟨if_neg lacks, Nat.zero_le _⟩

theorem utf8Fits_of_length {text : String} {n : Nat} (bound : (Utf8.encode text).length ≤ 3 * n)
    (small : 3 * n ≤ maxLength) : Utf8Fits (some text) := by
  intro other same
  obtain rfl := Option.mem_some.mp same
  exact Nat.le_trans bound small

/-- The bytes of a message are those of its fields, so that what bounds the sum bounds each. -/
theorem yields_message : Yields (readMessage f) fun n m =>
    m.normalize f = m ∧ (3 * n ≤ maxLength → m.Fits f) := by
  refine (yields_msgId f).bind fun a id id_fixed =>
    (yields_messageTime f).bind fun b time time_fixed =>
    delimited_uint32.yields.bind fun c type _ => delimited_uint8.yields.bind fun d flag _ =>
    yields_bufferInfo.bind fun e buffer buffer_fixed =>
    yields_messageText.bind fun g sender sender_le =>
    (yields_optionalText f .senderPrefixes).bind fun h prefixes prefixes_fixed =>
    (yields_optionalText f .richMessages).bind fun i realName realName_fixed =>
    (yields_optionalText f .richMessages).bind fun j avatarUrl avatarUrl_fixed =>
    yields_messageText.bind_pure fun k content content_le => ⟨?_, fun small => ?_⟩
  · simp only [Message.normalize, id_fixed, time_fixed.1, Flags.normalize_truncate, buffer_fixed.1,
      prefixes_fixed.1, realName_fixed.1, avatarUrl_fixed.1]
  · have name_fits : Utf8Fits buffer.name := by
      intro text member
      have name_le := buffer_fixed.2 text member
      omega
    exact ⟨time_fixed.2, name_fits, utf8Fits_of_length sender_le (by omega),
      fun _ => utf8Fits_of_length prefixes_fixed.2 (by omega),
      fun _ => ⟨utf8Fits_of_length realName_fixed.2 (by omega),
        utf8Fits_of_length avatarUrl_fixed.2 (by omega)⟩,
      utf8Fits_of_length content_le (by omega)⟩

end Wire
end Datastream
