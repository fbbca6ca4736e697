import Datastream.Proofs.Calendar.Precision
import Datastream.Proofs.Text.Utf16
import Datastream.Proofs.Text.Utf8
import Datastream.Proofs.Wire.Reads
import Datastream.Wire.Primitive

/-!
# Primitives round trip

Each primitive is read back by its reader: words as they are, texts and byte arrays with null and
empty kept apart, dates exactly, times to the millisecond.
-/
namespace Datastream.Wire

open Output (ReadBy)

theorem reads_uint8 (n : UInt8) : Reads readUInt8 [n] n := by
  have read := (Reads.number_of_lt 1 n.toNat_lt).map UInt8.ofNat
  rwa [Bytes.ofNat_one, UInt8.ofNat_toNat] at read

theorem reads_uint16 (n : UInt16) : Reads readUInt16 (Bytes.u16 n) n := by
  have read := (Reads.number_of_lt 2 n.toNat_lt).map UInt16.ofNat
  rwa [UInt16.ofNat_toNat] at read

theorem reads_uint32 (n : UInt32) : Reads readUInt32 (Bytes.u32 n) n := by
  have read := (Reads.number_of_lt 4 n.toNat_lt).map UInt32.ofNat
  rwa [UInt32.ofNat_toNat] at read

theorem reads_uint64 (n : UInt64) : Reads readUInt64 (Bytes.u64 n) n := by
  have read := (Reads.number_of_lt 8 n.toNat_lt).map UInt64.ofNat
  rwa [UInt64.ofNat_toNat] at read

theorem reads_int8 (n : Int8) : Reads readInt8 (int8 n) n := (reads_uint8 n.toUInt8).map UInt8.toInt8
theorem reads_int16 (n : Int16) : Reads readInt16 (int16 n) n :=
  (reads_uint16 n.toUInt16).map UInt16.toInt16
theorem reads_int32 (n : Int32) : Reads readInt32 (int32 n) n :=
  (reads_uint32 n.toUInt32).map UInt32.toInt32
theorem reads_int64 (n : Int64) : Reads readInt64 (int64 n) n :=
  (reads_uint64 n.toUInt64).map UInt64.toInt64

theorem reads_bool (b : Bool) : Reads readBool (bool b) b := by
  have read := (reads_uint8 (if b then 1 else 0)).map (· != 0)
  cases b <;> exact read

/-- A number of four bytes, read with a sign. -/
theorem reads_int32_ofNat (n : Nat) : Reads readInt32 (Bytes.ofNat 4 n) (Int32.ofNat n) := by
  have read := ((Reads.number 4 n).map UInt32.ofNat).map UInt32.toInt32
  have same : UInt32.ofNat (n % Nat.pow 256 4) = UInt32.ofNat n := by
    rw [← UInt32.toNat_inj]
    simp
  rw [same] at read
  exact read

theorem toInt_ofNat {n : Nat} (small : n ≤ maxLength) : (Int32.ofNat n).toInt = n := by
  unfold maxLength at small
  rw [Int32.toInt_ofNat']
  exact Int.bmod_eq_of_le (by simp only [Int32.size]; omega) (by simp only [Int32.size]; omega)

theorem stop_count (n : Nat) : (count n).stop = none ↔ n ≤ maxLength := by
  unfold count
  split <;> simp_all [Output.write, Output.fail]

theorem bytes_count {n : Nat} (small : n ≤ maxLength) : (count n).bytes = Bytes.ofNat 4 n := by
  rw [count, if_pos small]
  rfl

theorem readBy_count (n : Nat) : (count n).ReadBy readCount n := by
  intro unstopped rest
  have small := (stop_count n).mp unstopped
  have value := toInt_ofNat small
  have read := reads_int32_ofNat n rest
  rw [bytes_count small]
  unfold readCount
  rw [Reader.bind_of_ok read]
  simp only [value]
  rw [if_neg (by omega), Int.toNat_natCast]
  rfl

/-- A length is read only if so many bytes follow. -/
theorem readLength_append {n : Nat} (small : n ≤ maxLength) {rest : Bytes}
    (enough : n ≤ rest.length) : readLength (Bytes.ofNat 4 n ++ rest) = .ok (some n) rest := by
  have read := reads_int32_ofNat n rest
  have value := toInt_ofNat small
  have there : Reader.ensure n rest = .ok () rest := if_pos ((Bytes.holds_iff n rest).mpr enough)
  unfold readLength
  rw [Reader.bind_of_ok read]
  simp only [value]
  rw [if_neg (by omega), if_neg (by omega), Int.toNat_natCast, Reader.bind_of_ok there]
  rfl

theorem reads_null_length : Reads readLength null none := by
  intro rest
  unfold readLength
  rw [null, Reader.bind_of_ok (reads_int32 (-1) rest)]
  rfl

/-- What follows a length is read with all its bytes in sight. -/
theorem reads_length_bind {α : Type} {next : Option Nat → Reader α} {b : Bytes} {a : α}
    (small : b.length ≤ maxLength) (body : Reads (next (some b.length)) b a) :
    Reads (readLength >>= next) (Bytes.ofNat 4 b.length ++ b) a := by
  intro rest
  have enough : b.length ≤ (b ++ rest).length := by simp
  have length := readLength_append small enough
  rw [List.append_assoc, Reader.bind_of_ok length]
  exact body rest

theorem readBy_bytes (b : Option Bytes) : (bytes b).ReadBy readBytes b := by
  cases b with
  | none =>
    intro _
    have read : Reads readBytes (null ++ []) none := reads_null_length.bind (Reads.pure none)
    rwa [List.append_nil] at read
  | some b =>
    intro unstopped
    have fits := ((Output.stop_append _ _).mp unstopped).1
    have small := (stop_count b.length).mp fits
    change Reads readBytes (count b.length ++ Output.write b).bytes (some b)
    rw [Output.bytes_append fits, bytes_count small]
    exact reads_length_bind small ((Reads.take b).map some)

theorem readBy_utf8 (s : Option String) : (utf8 s).ReadBy readUtf8 s := by
  have read := (readBy_bytes (s.map Utf8.encode)).map (Option.map Utf8.decode)
  have same : (s.map Utf8.encode).map Utf8.decode = s := by
    cases s <;> simp [Utf8.decode_encode]
  rwa [same] at read

theorem units_flatMap (us : List UInt16) : units (us.flatMap Bytes.u16) = us := by
  induction us with
  | nil => rfl
  | cons u us ih =>
    have high : u.toNat / 256 < 256 := Nat.div_lt_of_lt_mul u.toNat_lt
    have joined : (UInt8.ofNat (u.toNat / 256)).toNat * 256 + (UInt8.ofNat u.toNat).toNat =
        u.toNat := by
      simp only [UInt8.toNat_ofNat']
      omega
    rw [List.flatMap_cons, Bytes.u16_eq, List.cons_append, List.singleton_append, units, joined,
      UInt16.ofNat_toNat, ih]

theorem length_flatMap_u16 (us : List UInt16) : (us.flatMap Bytes.u16).length = us.length * 2 := by
  induction us with
  | nil => rfl
  | cons u us ih =>
    rw [List.flatMap_cons, List.length_append, ih, Bytes.u16, Bytes.length_ofNat, List.length_cons]
    omega

theorem readBy_utf16 (s : Option String) : (utf16 s).ReadBy readUtf16 s := by
  cases s with
  | none =>
    intro _
    have read : Reads readUtf16 (null ++ []) none := reads_null_length.bind (Reads.pure none)
    rwa [List.append_nil] at read
  | some s =>
    intro unstopped
    have length := length_flatMap_u16 (Utf16.encode s)
    have fits := ((Output.stop_append _ _).mp unstopped).1
    have small := (stop_count _).mp fits
    have body := (Reads.take ((Utf16.encode s).flatMap Bytes.u16)).map
      fun b => some (Utf16.decode (units b))
    rw [units_flatMap, Utf16.decode_encode, length] at body
    change Reads readUtf16 (count ((Utf16.encode s).length * 2) ++
      Output.write ((Utf16.encode s).flatMap Bytes.u16)).bytes (some s)
    rw [Output.bytes_append fits, bytes_count small, ← length]
    rw [← length] at small
    refine reads_length_bind small ?_
    simp only [length]
    rw [if_neg (by omega)]
    exact body

theorem readBy_typeName (name : String) : (typeName name).ReadBy readTypeName (some name) := by
  unfold typeName
  split
  · have read := (readBy_bytes (some (Utf8.encode name ++ [0]))).map
      (Option.map fun b => Utf8.decode (dropTerminator b))
    have same : Utf8.decode (dropTerminator (Utf8.encode name ++ [0])) = name := by
      simp [dropTerminator, Utf8.decode_encode]
    simp only [Option.map_some, same, bytes, List.length_append, List.length_singleton] at read
    exact read
  · exact Output.ReadBy.fail _

theorem julianDay_fits (d : Date) : -2147483648 ≤ d.julianDay ∧ d.julianDay ≤ 2147483647 := by
  have bounds := d.dayNumber_bounds
  simp only [Date.julianDay, Date.julianOffset]
  omega

theorem toInt_julianDay (d : Date) : (Int32.ofInt d.julianDay).toInt = d.julianDay :=
  Int32.toInt_ofInt_of_le (julianDay_fits d).1 (Int.lt_add_one_of_le (julianDay_fits d).2)

/-- No date is refused. -/
theorem checkedDate_eq (d : Date) : checkedDate d = .write (date d) := if_pos (julianDay_fits d)

theorem checkedDateTime_eq (t : DateTime) : checkedDateTime t = .write (dateTime t) := by
  unfold checkedDateTime dateTime
  simp only [checkedDate_eq, ← Output.write_append, List.append_assoc]

theorem reads_date (d : Date) : Reads readDate (date d) d := by
  intro rest
  unfold readDate
  rw [date, Reader.bind_of_ok (reads_int32 _ rest)]
  simp only [toInt_julianDay, Date.ofJulianDay_julianDay]
  rfl

theorem reads_time (t : TimeOfDay) : Reads readTime (time t) t.wholeMillis := by
  have seconds := t.seconds_lt
  have small : t.millis ≤ maxLength := by
    unfold TimeOfDay.millis maxLength
    omega
  have value := toInt_ofNat small
  have positive : ¬ ((t.millis : Int) < 0) := by omega
  intro rest
  unfold readTime
  rw [time, Reader.bind_of_ok (reads_int32_ofNat t.millis rest)]
  simp only [value, if_neg positive, Int.toNat_natCast, t.ofMillis_millis]
  rfl

/-- Every date-time is read back that has the offset it claims to have. -/
theorem reads_dateTime (t : DateTime) (honest : ∀ reading, t ≠ .unanchored reading .offsetFromUtc) :
    Reads readDateTime (dateTime t) t.normalize := by
  unfold readDateTime dateTime
  rw [List.append_assoc, List.append_assoc]
  refine (reads_date t.reading.date).bind ((reads_time t.reading.time).bind
    ((reads_int8 t.spec.toInt8).bind ?_))
  rw [TimeSpec.ofInt8_toInt8]
  cases t with
  | utc reading => exact Reads.pure _
  | offset value =>
    have whole : OffsetReading.of? ⟨value.reading.date, value.reading.time.wholeMillis⟩ value.offset =
        some value.wholeMillis := value.of_wholeMillis
    intro rest
    simp only [DateTime.spec, DateTime.reading]
    rw [Reader.bind_of_ok (reads_int32 value.offset.seconds rest), UtcOffset.of_seconds]
    simp only [whole]
    rfl
  | unanchored reading spec =>
    cases spec with
    | offsetFromUtc => exact absurd rfl (honest reading)
    | _ => exact Reads.pure _

end Datastream.Wire
