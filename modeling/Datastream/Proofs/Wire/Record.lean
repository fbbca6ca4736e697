import Datastream.Proofs.Value.Normal
import Datastream.Proofs.Wire.Primitive
import Datastream.Wire.Decode
import Datastream.Wire.Encode

/-!
# Records round trip

Ids, buffers, messages and addresses are read back field by field, in the order in which they were
written. Which layout an id, a time or a message has is decided by the same features on both sides,
so every branch of the writer meets the same branch of the reader.
-/
namespace Datastream.Wire

open Output (ReadBy)

variable (f : FeatureSet)

theorem reads_msgId (id : MsgId) : Reads (readMsgId f) (msgId f id) (id.normalize f) := by
  unfold readMsgId msgId MsgId.normalize
  by_cases long : f.has .longMessageId = true
  · simp only [long, if_true]
    exact (reads_int64 id.id).map MsgId.mk
  · simp only [long, if_false, Bool.false_eq_true]
    exact (reads_int32 id.id.toInt32).map fun n => MsgId.mk n.toInt64

/-- A time is read as the instant that its milliseconds stand for, or as its second. -/
theorem readBy_messageTime_of_found (time : Reading) {t : Reading}
    (found : (if f.has .longTime then Reading.ofMillis? time.millis else some time.wholeSeconds) =
      some t) : (messageTime f time).ReadBy (readMessageTime f) t := by
  have bounds := time.seconds_bounds
  have below := time.time.nanos_lt
  unfold messageTime readMessageTime
  by_cases long : f.has .longTime = true
  · have value : (Int64.ofInt time.millis).toInt = time.millis := by
      refine Int64.toInt_ofInt_of_le ?_ ?_ <;>
      · unfold Reading.millis
        omega
    simp only [long, if_true] at found ⊢
    refine ReadBy.write fun rest => ?_
    rw [Reader.bind_of_ok (reads_int64 _ rest), value, found]
    rfl
  · simp only [long, if_false, Bool.false_eq_true, Option.some.injEq] at found ⊢
    split
    · rename_i fits
      have value : (Int32.ofInt time.seconds).toInt = time.seconds :=
        Int32.toInt_ofInt_of_le fits.1 (by omega)
      refine ReadBy.write fun rest => ?_
      rw [Reader.bind_of_ok (reads_int32 _ rest), value, time.ofSeconds_seconds_zero, found]
      rfl
    · exact ReadBy.fail _

theorem readBy_messageTime (time : Reading) (ordinary : time.time.nanos < 1000000000) :
    (messageTime f time).ReadBy (readMessageTime f)
      (if f.has .longTime then time.wholeMillis else time.wholeSeconds) := by
  refine readBy_messageTime_of_found f time ?_
  rw [time.ofMillis_millis ordinary]
  split <;> rfl

theorem readBy_bufferInfo (info : BufferInfo) :
    (bufferInfo info).ReadBy readBufferInfo info.normalize := by
  unfold bufferInfo readBufferInfo
  simp only [Output.write_append, Output.append_assoc]
  exact (ReadBy.write (reads_int32 info.bufferId.id)).bind <|
    (ReadBy.write (reads_int32 info.networkId.id)).bind <|
    (ReadBy.write (reads_uint16 ⟨info.type.bits⟩)).bind <|
    (ReadBy.write (reads_int32 info.groupId)).bind <|
    (readBy_utf8 info.name).bind_pure rfl

theorem readBy_messageText (text : String) : (utf8 (some text)).ReadBy readMessageText text :=
  (readBy_utf8 (some text)).map fun (s : Option String) => s.getD ""

/-- A text that goes with a feature is read just when it was written. -/
theorem readBy_optionalText (feature : Feature) (text : String) :
    (if f.has feature then utf8 (some text) else .empty).ReadBy (readOptionalText f feature)
      (f.keep feature text) := by
  unfold readOptionalText FeatureSet.keep
  split
  · exact readBy_messageText text
  · exact ReadBy.pure ""

/-- Name and picture go together, but each is read for itself. -/
theorem richTexts_eq (m : Message) :
    (if f.has .richMessages then utf8 (some m.realName) ++ utf8 (some m.avatarUrl) else .empty) =
      (if f.has .richMessages then utf8 (some m.realName) else .empty) ++
        (if f.has .richMessages then utf8 (some m.avatarUrl) else .empty) := by
  split
  · rfl
  · exact (Output.append_empty _).symm

theorem reads_messageFlag (flag : MessageFlag) :
    Reads readUInt8 (Bytes.ofNat 1 flag.toNat) ⟨flag.bits⟩ := by
  have byte : Bytes.ofNat 1 flag.toNat = [⟨flag.bits⟩] := Bytes.ofNat_one ⟨flag.bits⟩
  rw [byte]
  exact reads_uint8 ⟨flag.bits⟩

/-- A message is read as far as its time is, and with the time as which that is read. -/
theorem readBy_message_of_time (m : Message) {t : Reading}
    (timed : (messageTime f m.time).ReadBy (readMessageTime f) t) :
    (message f m).ReadBy (readMessage f) { m.normalize f with time := t } := by
  unfold message readMessage
  rw [richTexts_eq]
  simp only [Output.write_append, Output.append_assoc]
  exact (ReadBy.write (reads_msgId f m.id)).bind <|
    timed.bind <|
    (ReadBy.write (reads_uint32 ⟨m.type.bits⟩)).bind <|
    (ReadBy.write (reads_messageFlag m.flag)).bind <|
    (readBy_bufferInfo m.buffer).bind <|
    (readBy_messageText m.sender).bind <|
    (readBy_optionalText f .senderPrefixes m.prefixes).bind <|
    (readBy_optionalText f .richMessages m.realName).bind <|
    (readBy_optionalText f .richMessages m.avatarUrl).bind <|
    (readBy_messageText m.content).bind_pure rfl

theorem readBy_message (m : Message) (ordinary : m.time.time.nanos < 1000000000) :
    (message f m).ReadBy (readMessage f) (m.normalize f) :=
  readBy_message_of_time f m (readBy_messageTime f m.time ordinary)

theorem reads_bits (width : Nat) {size : Nat} (bits : BitVec size)
    (fits : Nat.pow 2 size ≤ Nat.pow 256 width) :
    Reads (BitVec.ofNat size <$> Reader.number width) (Bytes.ofNat width bits.toNat) bits := by
  have read := (Reads.number_of_lt width (Nat.lt_of_lt_of_le bits.isLt fits)).map (BitVec.ofNat size)
  rwa [BitVec.ofNat_toNat, BitVec.setWidth_eq] at read

theorem reads_hostAddress (address : HostAddress) :
    Reads readHostAddress (hostAddress address) address := by
  cases address with
  | v4 bits =>
    exact (reads_uint8 0).bind ((reads_bits 4 bits (by decide)).map HostAddress.v4)
  | v6 bits =>
    exact (reads_uint8 1).bind ((reads_bits 16 bits (by decide)).map HostAddress.v6)

/-- The sixteen bytes are written as one number and read as two. -/
theorem reads_uuid (bits : BitVec 128) : Reads readUuid (Bytes.ofNat 16 bits.toNat) bits := by
  have small := bits.isLt
  have half : Nat.pow 256 8 = 0x10000000000000000 := rfl
  have low := Reads.number 8 bits.toNat
  have fits : bits.toNat / Nat.pow 256 8 < Nat.pow 256 8 := by
    rw [half]
    omega
  have high := Reads.number_of_lt 8 fits
  have joined : BitVec.ofNat 128
      (bits.toNat / Nat.pow 256 8 * 0x10000000000000000 + bits.toNat % Nat.pow 256 8) = bits := by
    rw [← half, Nat.div_add_mod', BitVec.ofNat_toNat, BitVec.setWidth_eq]
  have body := low.map fun low =>
    BitVec.ofNat 128 (bits.toNat / Nat.pow 256 8 * 0x10000000000000000 + low)
  rw [joined] at body
  rw [Bytes.ofNat_add 8 8]
  exact high.bind body

end Datastream.Wire
