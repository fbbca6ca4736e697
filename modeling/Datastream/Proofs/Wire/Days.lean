import Datastream.Proofs.Calendar.Succession
import Datastream.Proofs.Wire.Primitive

/-!
# Dates and times in 32 bits

Dates travel as Julian days, times as milliseconds of the day, both in 32 bits. Every date fits, and of
the 32-bit numbers just the Julian days of dates are read as dates (`readDate_int32`,
`Date.ofJulianDay_eq_some_iff`) and just the milliseconds of a day as times (`readTime_int32`,
`TimeOfDay.exists_ofMillis_iff`). So nothing is lost of a date, and of a time what is below the
millisecond (`dates_and_times_exact`).
-/
namespace Datastream

namespace Date

theorem ofJulianDay_eq_some_iff {j : Int} {d : Date} : ofJulianDay? j = some d ↔ d.julianDay = j := by
  constructor
  · intro found
    have count := dayNumber_of_ofDayNumber found
    rw [julianDay, count]
    omega
  · rintro rfl
    exact ofJulianDay_julianDay d

/-- Of two dates one is the day after the other just if it has the next Julian day. -/
theorem next_eq_some_iff_julianDay (d d' : Date) :
    d.next = some d' ↔ d'.julianDay = d.julianDay + 1 := by
  rw [next_eq_some_iff]
  simp only [julianDay]
  omega

end Date

namespace TimeOfDay

theorem millis_le (t : TimeOfDay) : t.millis ≤ 86399999 := by
  have seconds := t.seconds_lt
  unfold millis
  omega

/-- There is a time for every millisecond of a day, and for no other. -/
theorem exists_ofMillis_iff (n : Nat) : (∃ t, ofMillis? n = some t) ↔ n ≤ 86399999 := by
  unfold ofMillis? of?
  constructor
  · rintro ⟨t, found⟩
    split at found
    · omega
    · cases found
  · intro within
    exact ⟨_, dif_pos ⟨⟨by omega, by omega⟩, Or.inl (by omega)⟩⟩

/-- What is below the millisecond is cut off; of a leap second, all but the last millisecond of its
second. -/
theorem wholeMillis_nanos (t : TimeOfDay) : t.wholeMillis.nanos =
    if t.nanos < 1000000000 then t.nanos / 1000000 * 1000000 else 999000000 := by
  simp only [wholeMillis]
  split <;> omega

end TimeOfDay

namespace Wire

theorem readDate_int32 (j : Int32) (rest : Bytes) :
    readDate (int32 j ++ rest) =
      match Date.ofJulianDay? j.toInt with
      | some d => .ok d rest
      | none => .error (.malformed (.dayOutOfRange j.toInt)) rest := by
  unfold readDate
  rw [Reader.bind_of_ok (reads_int32 j rest)]
  cases Date.ofJulianDay? j.toInt <;> rfl

theorem date_of_julianDay {j : Int32} {d : Date} (same : d.julianDay = j.toInt) : date d = int32 j := by
  rw [date, same, Int32.ofInt_toInt]

/-- A number is read as the date whose Julian day it is. -/
theorem readDate_eq_ok_iff {j : Int32} {d : Date} {rest left : Bytes} :
    readDate (int32 j ++ rest) = .ok d left ↔ d.julianDay = j.toInt ∧ left = rest := by
  rw [readDate_int32, ← Date.ofJulianDay_eq_some_iff]
  cases Date.ofJulianDay? j.toInt with
  | none => simp
  | some e => simp [eq_comm]

theorem readDate_of_none {j : Int32} (none_there : ¬ ∃ d : Date, d.julianDay = j.toInt) (rest : Bytes) :
    readDate (int32 j ++ rest) = .error (.malformed (.dayOutOfRange j.toInt)) rest := by
  rw [readDate_int32]
  cases found : Date.ofJulianDay? j.toInt with
  | none => rfl
  | some d => exact absurd ⟨d, Date.ofJulianDay_eq_some_iff.mp found⟩ none_there

theorem time_eq (t : TimeOfDay) : time t = int32 (Int32.ofNat t.millis) := by
  have small := t.millis_le
  have same : (UInt32.ofNat t.millis).toNat = t.millis :=
    UInt32.toNat_ofNat_of_lt' (Nat.lt_of_le_of_lt small (by decide))
  change Bytes.ofNat 4 t.millis = Bytes.ofNat 4 (UInt32.ofNat t.millis).toNat
  rw [same]

/-- A millisecond of a day is read as a time, and any other number is refused. -/
theorem readTime_int32 (j : Int32) (rest : Bytes) :
    (∃ t, readTime (int32 j ++ rest) = .ok t rest ∧ 0 ≤ j.toInt ∧ j.toInt ≤ 86399999) ∨
      (readTime (int32 j ++ rest) = .error (.malformed (.timeOutOfRange j.toInt)) rest ∧
        ¬ (0 ≤ j.toInt ∧ j.toInt ≤ 86399999)) := by
  have there := TimeOfDay.exists_ofMillis_iff j.toInt.toNat
  unfold readTime
  rw [Reader.bind_of_ok (reads_int32 j rest)]
  by_cases negative : j.toInt < 0
  · right
    simp only [if_pos negative]
    exact ⟨rfl, by omega⟩
  · simp only [if_neg negative]
    cases found : TimeOfDay.ofMillis? j.toInt.toNat with
    | some t =>
      left
      have within := there.mp ⟨t, found⟩
      exact ⟨t, rfl, by omega⟩
    | none =>
      right
      have beyond : ¬ j.toInt.toNat ≤ 86399999 := fun within => by
        obtain ⟨t, other⟩ := there.mpr within
        rw [found] at other
        cases other
      exact ⟨rfl, by omega⟩

/-- A time is written as a millisecond of a day, and read back without what is below it. -/
theorem time_written (t : TimeOfDay) (rest : Bytes) : ∃ n : Int32,
    0 ≤ n.toInt ∧ n.toInt ≤ 86399999 ∧ time t = int32 n ∧
      readTime (int32 n ++ rest) = .ok t.wholeMillis rest := by
  have small := t.millis_le
  have value : (Int32.ofNat t.millis).toInt = t.millis :=
    toInt_ofNat (Nat.le_trans small (by decide))
  refine ⟨Int32.ofNat t.millis, by omega, by omega, time_eq t, ?_⟩
  rw [← time_eq]
  exact reads_time t rest

/-- Dates and times go through 32 bits as exactly as they can. A date is never refused, it is written as
its Julian day and read back as it was; Julian days, that of 1970-01-01 being 2440588, go up by one from a
day to the day after, until the last day of the calendar; a number is read as a date just if it is the
Julian day of one, and that date is written as the same number again. A time, a leap second too, is
written as a millisecond of the day, and read back without what is below the millisecond, a leap second
as the last millisecond of its second; a number is read as a time just if it is a millisecond of a
day. -/
theorem dates_and_times_exact (d d' : Date) (t : TimeOfDay) (j : Int32) (rest left : Bytes) :
    ((∃ n : Int32, n.toInt = d.julianDay ∧ checkedDate d = .write (int32 n) ∧
        readDate (int32 n ++ rest) = .ok d rest) ∧
      Reading.epoch.date.julianDay = 2440588 ∧
      (d.next = some d' ↔ d'.julianDay = d.julianDay + 1) ∧
      (d.next = none ↔ d = Date.last) ∧
      (readDate (int32 j ++ rest) = .ok d left ↔
        d.julianDay = j.toInt ∧ checkedDate d = .write (int32 j) ∧ left = rest) ∧
      ((∃ e : Date, e.julianDay = j.toInt) ∨
        readDate (int32 j ++ rest) = .error (.malformed (.dayOutOfRange j.toInt)) rest)) ∧
    (∃ n : Int32, 0 ≤ n.toInt ∧ n.toInt ≤ 86399999 ∧ time t = int32 n ∧
        ∃ t' : TimeOfDay, readTime (int32 n ++ rest) = .ok t' rest ∧ t'.seconds = t.seconds ∧
          t'.nanos = if t.nanos < 1000000000 then t.nanos / 1000000 * 1000000 else 999000000) ∧
      ((∃ t', readTime (int32 j ++ rest) = .ok t' rest) ↔ 0 ≤ j.toInt ∧ j.toInt ≤ 86399999) ∧
      ((0 ≤ j.toInt ∧ j.toInt ≤ 86399999) ∨
        readTime (int32 j ++ rest) = .error (.malformed (.timeOutOfRange j.toInt)) rest) := by
  refine ⟨⟨?_, by decide, ?_, ?_, ?_, ?_⟩, ?_, ?_, ?_⟩
  · refine ⟨Int32.ofInt d.julianDay, toInt_julianDay d, checkedDate_eq d, ?_⟩
    exact reads_date d rest
  · exact d.next_eq_some_iff_julianDay d'
  · exact d.next_eq_none_iff
  · rw [readDate_eq_ok_iff]
    constructor
    · rintro ⟨same, nothing⟩
      refine ⟨same, ?_, nothing⟩
      rw [checkedDate_eq, date_of_julianDay same]
    · rintro ⟨same, _, nothing⟩
      exact ⟨same, nothing⟩
  · by_cases there : ∃ e : Date, e.julianDay = j.toInt
    · exact .inl there
    · exact .inr (readDate_of_none there rest)
  · obtain ⟨n, least, most, written, read⟩ := time_written t rest
    exact ⟨n, least, most, written, t.wholeMillis, read, rfl, t.wholeMillis_nanos⟩
  · rcases readTime_int32 j rest with ⟨t', read, within⟩ | ⟨refused, outside⟩
    · exact ⟨fun _ => within, fun _ => ⟨t', read⟩⟩
    · constructor
      · rintro ⟨t', read⟩
        rw [refused] at read
        cases read
      · exact fun within => absurd within outside
  · rcases readTime_int32 j rest with ⟨_, _, within⟩ | ⟨refused, _⟩
    · exact .inl within
    · exact .inr refused

end Wire
end Datastream
