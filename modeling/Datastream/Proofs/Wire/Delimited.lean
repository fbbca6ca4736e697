import Datastream.Proofs.Wire.Reads
import Datastream.Wire.Decode

/-!
# Encodings that end by themselves

A reader is `SelfDelimiting` if the bytes that it takes say by themselves where they end: with
anything else behind them they are read as the same, and when they break off early, wherever that is,
the reader says that bytes are missing and nothing else. A sequence of such readers is such a reader,
and so is one of them done many times over, so it is enough to look at each payload by itself.

`decoders_selfDelimiting` says it of all decoders of values. A length is no such reader by itself,
since the bytes that it counts have to be there when it is read; it is one together with them
(`readLength_bind`, `delimited_counted`).

The decoders are `deserialize` and the four beside it.
-/
namespace Datastream

/-- Whenever the reader succeeds, it has taken bytes that it would take in front of any others, and it
misses bytes if it is given only the first of them. -/
def SelfDelimiting {α : Type} (read : Reader α) : Prop :=
  ∀ input a rest, read input = .ok a rest → ∃ used, input = used ++ rest ∧ Reads read used a ∧
    ∀ n < used.length, ∃ needed remaining left,
      read (used.take n) = .error (.truncated needed remaining) left

section Readers

variable {α β : Type} {read : Reader α} {next : α → Reader β} {input rest : Bytes}

namespace Reader

theorem bind_of_error {error : Error} (h : read input = .error error rest) :
    (read >>= next) input = .error error rest := by
  change EStateM.bind read next input = _
  simp only [EStateM.bind, h]

/-- A sequence succeeds when its parts do, one on what the other left. -/
theorem bind_eq_ok_iff {b : β} :
    (read >>= next) input = .ok b rest ↔
      ∃ a left, read input = .ok a left ∧ next a left = .ok b rest := by
  cases run : read input with
  | ok a left =>
    rw [bind_of_ok run]
    constructor
    · intro after
      exact ⟨a, left, rfl, after⟩
    · rintro ⟨_, _, same, after⟩
      cases same
      exact after
  | error error left =>
    rw [bind_of_error run]
    constructor
    · intro failed
      cases failed
    · rintro ⟨_, _, same, _⟩
      cases same

theorem throw_ne_ok {error : Error} {a : α} : (throw error : Reader α) input ≠ .ok a rest := by
  intro run
  cases run

/-- Bytes that are taken stood in front, as many as were asked for. -/
theorem append_of_take {n : Nat} {b : Bytes} (h : take n input = .ok b rest) :
    input = b ++ rest ∧ b.length = n := by
  unfold take at h
  cases cut : input.cut n with
  | none =>
    rw [cut] at h
    cases h
  | some pieces =>
    obtain ⟨front, left⟩ := pieces
    rw [cut] at h
    cases h
    exact Bytes.eq_append_of_cut cut

/-- Taking bytes makes sure that they are there. -/
theorem ensure_take (n : Nat) (f : Bytes → α) :
    (ensure n >>= fun _ => f <$> take n) = f <$> take n := by
  funext input
  change EStateM.bind (ensure n) (fun _ => EStateM.map f (take n)) input = EStateM.map f (take n) input
  by_cases enough : input.holds n = true
  · simp [EStateM.bind, ensure, enough]
  · simp [EStateM.bind, EStateM.map, ensure, take, Bytes.cut, enough]

end Reader

namespace SelfDelimiting

theorem pure (a : α) : SelfDelimiting (Pure.pure a : Reader α) := by
  intro input b rest run
  cases run
  refine ⟨[], rfl, Reads.pure a, ?_⟩
  intro n short
  cases short

theorem fail (error : Error) : SelfDelimiting (throw error : Reader α) := by
  intro input a rest run
  exact absurd run Reader.throw_ne_ok

/-- The bytes of the first reader stand before those of the second: a cut falls into either. -/
theorem bind (first : SelfDelimiting read) (second : ∀ a, SelfDelimiting (next a)) :
    SelfDelimiting (read >>= next) := by
  intro input b rest run
  obtain ⟨a, left, front_run, back_run⟩ := Reader.bind_eq_ok_iff.mp run
  obtain ⟨front, rfl, reads_front, front_short⟩ := first input a left front_run
  obtain ⟨back, rfl, reads_back, back_short⟩ := second a left b rest back_run
  refine ⟨front ++ back, (List.append_assoc front back rest).symm, reads_front.bind reads_back, ?_⟩
  intro n short
  rw [List.take_append]
  by_cases inside : n < front.length
  · obtain ⟨needed, remaining, left, missing⟩ := front_short n inside
    have nothing : n - front.length = 0 := by omega
    rw [nothing, List.take_zero, List.append_nil]
    exact ⟨needed, remaining, left, Reader.bind_of_error missing⟩
  · have later : n - front.length < back.length := by
      rw [List.length_append] at short
      omega
    obtain ⟨needed, remaining, left, missing⟩ := back_short (n - front.length) later
    rw [List.take_of_length_le (by omega), Reader.bind_of_ok (reads_front _)]
    exact ⟨needed, remaining, left, missing⟩

theorem map (f : α → β) (h : SelfDelimiting read) : SelfDelimiting (f <$> read) := by
  rw [map_eq_pure_bind]
  exact h.bind fun a => pure (f a)

theorem ite {p : Prop} [Decidable p] {other : Reader α} (h : SelfDelimiting read)
    (h' : SelfDelimiting other) : SelfDelimiting (if p then read else other) := by
  split
  · exact h
  · exact h'

theorem take (n : Nat) : SelfDelimiting (Reader.take n) := by
  intro input a rest run
  obtain ⟨rfl, rfl⟩ := Reader.append_of_take run
  refine ⟨a, rfl, Reads.take a, ?_⟩
  intro n short
  have missing : Bytes.cut a.length (a.take n) = none := by
    rw [Bytes.cut_eq, if_neg]
    rw [List.length_take]
    omega
  refine ⟨a.length, (a.take n).length, a.take n, ?_⟩
  simp only [Reader.take, missing]

theorem number (width : Nat) : SelfDelimiting (Reader.number width) :=
  (take width).map Bytes.toNat

theorem times_go (h : SelfDelimiting read) (n : Nat) (done : List α) :
    SelfDelimiting (Reader.times.go read n done) := by
  induction n generalizing done with
  | zero => exact pure done.reverse
  | succ n ih => exact h.bind fun a => ih (a :: done)

theorem times (h : SelfDelimiting read) (n : Nat) : SelfDelimiting (Reader.times n read) :=
  h.times_go n []

end SelfDelimiting

end Readers

namespace Wire

open SelfDelimiting

theorem delimited_uint8 : SelfDelimiting readUInt8 := (number 1).map UInt8.ofNat
theorem delimited_uint16 : SelfDelimiting readUInt16 := (number 2).map UInt16.ofNat
theorem delimited_uint32 : SelfDelimiting readUInt32 := (number 4).map UInt32.ofNat
theorem delimited_uint64 : SelfDelimiting readUInt64 := (number 8).map UInt64.ofNat
theorem delimited_int8 : SelfDelimiting readInt8 := delimited_uint8.map UInt8.toInt8
theorem delimited_int16 : SelfDelimiting readInt16 := delimited_uint16.map UInt16.toInt16
theorem delimited_int32 : SelfDelimiting readInt32 := delimited_uint32.map UInt32.toInt32
theorem delimited_int64 : SelfDelimiting readInt64 := delimited_uint64.map UInt64.toInt64

theorem delimited_bool : SelfDelimiting readBool := delimited_uint8.map (· != 0)

theorem delimited_count : SelfDelimiting readCount :=
  delimited_int32.bind fun _ => (fail _).ite (pure _)

/-- The length by cases, with what follows it. -/
theorem readLength_bind {α : Type} (next : Option Nat → Reader α) :
    readLength >>= next = readInt32 >>= fun n =>
      if n.toInt = -1 then next none
      else if n.toInt < 0 then throw (.malformed (.negativeLength n.toInt))
      else Reader.ensure n.toInt.toNat >>= fun _ => next (some n.toInt.toNat) := by
  unfold readLength
  rw [bind_assoc]
  refine bind_congr fun n => ?_
  dsimp only
  split
  · rw [pure_bind]
  split
  · rfl
  · rw [bind_assoc]
    rfl

/-- A length together with the bytes that it counts, unless they are refused at once. -/
theorem delimited_counted {α : Type} {next : Option Nat → Reader α} (null : SelfDelimiting (next none))
    (body : ∀ n, (∃ error, next (some n) = throw error) ∨
      ∃ f : Bytes → α, next (some n) = f <$> Reader.take n) :
    SelfDelimiting (readLength >>= next) := by
  rw [readLength_bind]
  refine delimited_int32.bind fun n => null.ite ((fail _).ite ?_)
  rcases body n.toInt.toNat with ⟨error, refused⟩ | ⟨f, taken⟩
  · rw [refused]
    intro input a rest run
    obtain ⟨_, left, _, refusal⟩ := Reader.bind_eq_ok_iff.mp run
    exact absurd refusal Reader.throw_ne_ok
  · rw [taken, Reader.ensure_take]
    exact (take n.toInt.toNat).map f

theorem delimited_bytes : SelfDelimiting readBytes :=
  delimited_counted (pure none) fun _ => .inr ⟨some, rfl⟩

theorem delimited_utf8 : SelfDelimiting readUtf8 := delimited_bytes.map _

theorem delimited_typeName : SelfDelimiting readTypeName := delimited_bytes.map _

theorem delimited_utf16 : SelfDelimiting readUtf16 := by
  refine delimited_counted (pure none) fun n => ?_
  by_cases odd : n % 2 = 1
  · exact .inl ⟨_, if_pos odd⟩
  · refine .inr ⟨fun b => some (Utf16.decode (units b)), ?_⟩
    rw [map_eq_pure_bind]
    exact if_neg odd

theorem delimited_date : SelfDelimiting readDate := by
  refine delimited_int32.bind fun day => ?_
  dsimp only
  split
  · exact pure _
  · exact fail _

theorem delimited_time : SelfDelimiting readTime := by
  refine delimited_int32.bind fun millis => ?_
  dsimp only
  split
  · exact pure _
  · exact fail _

theorem delimited_dateTime : SelfDelimiting readDateTime := by
  refine delimited_date.bind fun date => delimited_time.bind fun time =>
    delimited_int8.bind fun spec => ?_
  split
  · exact pure _
  · refine delimited_int32.bind fun seconds => ?_
    split
    · exact fail _
    · split
      · exact fail _
      · exact pure _
  · exact pure _

variable (f : FeatureSet)

theorem delimited_msgId : SelfDelimiting (readMsgId f) :=
  (delimited_int64.bind fun _ => pure _).ite (delimited_int32.bind fun _ => pure _)

theorem delimited_messageTime : SelfDelimiting (readMessageTime f) := by
  refine (delimited_int64.bind fun millis => ?_).ite (delimited_int32.bind fun seconds => ?_)
  · cases Reading.ofMillis? millis.toInt with
    | some t => exact pure t
    | none => exact fail _
  · cases Reading.ofSeconds? seconds.toInt 0 with
    | some t => exact pure t
    | none => exact fail _

theorem delimited_bufferInfo : SelfDelimiting readBufferInfo :=
  delimited_int32.bind fun _ => delimited_int32.bind fun _ => delimited_uint16.bind fun _ =>
    delimited_int32.bind fun _ => delimited_utf8.bind fun _ => pure _

theorem delimited_messageText : SelfDelimiting readMessageText := delimited_utf8.map _

theorem delimited_optionalText (feature : Feature) : SelfDelimiting (readOptionalText f feature) :=
  delimited_messageText.ite (pure "")

theorem delimited_message : SelfDelimiting (readMessage f) :=
  (delimited_msgId f).bind fun _ => (delimited_messageTime f).bind fun _ =>
    delimited_uint32.bind fun _ => delimited_uint8.bind fun _ => delimited_bufferInfo.bind fun _ =>
    delimited_messageText.bind fun _ => (delimited_optionalText f _).bind fun _ =>
    (delimited_optionalText f _).bind fun _ => (delimited_optionalText f _).bind fun _ =>
    delimited_messageText.bind fun _ => pure _

theorem delimited_hostAddress : SelfDelimiting readHostAddress := by
  refine delimited_uint8.bind fun protocol => ?_
  split
  · exact (number 4).bind fun _ => pure _
  · exact (number 16).bind fun _ => pure _
  · exact fail _

theorem delimited_uuid : SelfDelimiting readUuid :=
  (number 8).bind fun _ => (number 8).bind fun _ => pure _

section Containers

variable {box : Reader Value}

theorem delimited_entry (inside : SelfDelimiting box) : SelfDelimiting (readEntry box) :=
  delimited_utf16.bind fun _ => inside.bind fun _ => pure _

theorem delimited_list (inside : SelfDelimiting box) : SelfDelimiting (readList box) :=
  delimited_count.bind fun n => inside.times n

theorem delimited_fields (inside : SelfDelimiting box) : SelfDelimiting (readFields box) :=
  delimited_count.bind fun n => ((delimited_entry inside).times n).map Fields.ofPairs

/-- A payload ends by itself if the values inside it do. -/
theorem delimited_payload (inside : SelfDelimiting box) (tag : Tag) :
    SelfDelimiting (readPayload f box tag) := by
  cases tag with
  | plain type =>
    cases type with
    | void => exact pure _
    | bool => exact delimited_bool.map _
    | char => exact delimited_int8.map _
    | uchar => exact delimited_uint8.map _
    | short => exact delimited_int16.map _
    | ushort => exact delimited_uint16.map _
    | int => exact delimited_int32.map _
    | uint => exact delimited_uint32.map _
    | long => exact delimited_int64.map _
    | ulong => exact delimited_uint64.map _
    | float => exact delimited_uint32.map _
    | double => exact delimited_uint64.map _
    | char16 => exact delimited_uint16.map _
    | string => exact delimited_utf16.map _
    | stringList =>
      exact delimited_count.bind fun n => (delimited_utf16.times n).bind fun _ => pure _
    | bytes => exact delimited_bytes.map _
    | date => exact delimited_date.map _
    | time => exact delimited_time.map _
    | dateTime => exact delimited_dateTime.map _
    | uuid => exact delimited_uuid.map _
    | list => exact (delimited_list inside).map _
    | map => exact (delimited_fields inside).map _
    | boxed => exact inside.map _
    | userType => exact fail _
  | named type =>
    cases type with
    | bufferId | networkId | identityId => exact delimited_int32.map _
    | msgId => exact (delimited_msgId f).map _
    | bufferInfo => exact delimited_bufferInfo.map _
    | message => exact (delimited_message f).map _
    | hostAddress => exact delimited_hostAddress.map _
    | peerPtr => exact delimited_uint64.map _
    | dccIpDetection | dccPortSelection => exact delimited_uint8.map _
    | record type => exact (delimited_fields inside).map _

end Containers

theorem delimited_tag (r : Registry) : SelfDelimiting (readTag r) := by
  refine delimited_int32.bind fun id => delimited_bool.bind fun _ => ?_
  refine SelfDelimiting.ite (delimited_typeName.bind fun name => ?_) ?_
  · split
    · exact fail _
    · split
      · exact (pure _).ite (fail _)
      · exact fail _
  · split
    · exact (pure _).ite (fail _)
    · exact fail _

theorem delimited_box (r : Registry) (levels : Nat) : SelfDelimiting (readBox f r levels) := by
  induction levels with
  | zero => exact fail _
  | succ levels ih => exact (delimited_tag r).bind fun tag => delimited_payload f ih tag

end Wire

namespace Value

/-- Every decoder of values reads bytes that end by themselves: boxed values at any depth, payloads of
any type, lists and maps. -/
theorem decoders_selfDelimiting (r : Registry) (f : FeatureSet) :
    SelfDelimiting (decode r f) ∧ (∀ depth, SelfDelimiting (decodeAt r f depth)) ∧
      (∀ tag, SelfDelimiting (decodePayload r f tag)) ∧ SelfDelimiting (decodeList r f) ∧
      SelfDelimiting (decodeFields r f) := by
  have boxes : ∀ depth, SelfDelimiting (decodeAt r f depth) :=
    fun depth => Wire.delimited_box f r (maxDepth + 1 - depth)
  refine ⟨boxes 0, boxes, ?_, Wire.delimited_list (boxes 0), Wire.delimited_fields (boxes 0)⟩
  intro tag
  unfold decodePayload
  split
  · exact .fail _
  · exact Wire.delimited_payload f (boxes 1) _

end Value
end Datastream
