import Datastream.Calendar.DateTime
import Datastream.Proofs.Calendar.DayCount

/-!
# Precision

Times travel as milliseconds of a day, instants as milliseconds or seconds since 1970. What comes back
is the same day and clock without what is below the unit; a time of day in a leap second comes back
as the last millisecond of its second, and an ordinary instant on its own second.
-/
namespace Datastream

/-- The time without what is below a millisecond; a leap second is the last millisecond of its
second. -/
def TimeOfDay.wholeMillis (t : TimeOfDay) : TimeOfDay :=
  ⟨t.seconds, min (t.nanos / 1000000) 999 * 1000000, t.seconds_lt, by omega⟩

def Reading.wholeMillis (r : Reading) : Reading := ⟨r.date, r.time.wholeMillis⟩

def Reading.wholeSeconds (r : Reading) : Reading :=
  ⟨r.date, r.time.seconds, 0, r.time.seconds_lt, Nat.zero_lt_of_lt r.time.nanos_lt⟩

/-- The offset is kept, and so is the day in UTC. -/
def OffsetReading.wholeMillis (value : OffsetReading) : OffsetReading :=
  ⟨value.reading.wholeMillis, value.offset, value.utc_mem⟩

/-- A date-time to the millisecond; an unanchored one that says it is UTC becomes one. -/
def DateTime.normalize : DateTime → DateTime
  | unanchored reading .utc => utc reading.wholeMillis
  | unanchored reading spec => unanchored reading.wholeMillis spec
  | utc reading => utc reading.wholeMillis
  | offset value => offset value.wholeMillis

theorem TimeOfDay.ofMillis_millis (t : TimeOfDay) : ofMillis? t.millis = some t.wholeMillis := by
  have seconds := t.seconds_lt
  have whole : t.millis / 1000 = t.seconds := by
    unfold TimeOfDay.millis
    omega
  have part : t.millis % 1000 * 1000000 = min (t.nanos / 1000000) 999 * 1000000 := by
    unfold TimeOfDay.millis
    omega
  rw [ofMillis?, whole, part]
  exact dif_pos ⟨⟨seconds, by omega⟩, Or.inl (by omega)⟩

/-- What is found for milliseconds of a day has nothing below the millisecond. -/
theorem TimeOfDay.wholeMillis_of_ofMillis {millis : Nat} {t : TimeOfDay}
    (found : ofMillis? millis = some t) : t.wholeMillis = t := by
  unfold ofMillis? of? at found
  split at found
  · cases found
    simp only [wholeMillis, TimeOfDay.mk.injEq, true_and]
    omega
  · cases found

theorem TimeSpec.ofInt8_toInt8 (spec : TimeSpec) : ofInt8 spec.toInt8 = spec := by
  cases spec <;> decide

theorem UtcOffset.of_seconds (offset : UtcOffset) : of? offset.seconds = some offset :=
  dif_pos offset.seconds_mem

theorem OffsetReading.of_wholeMillis (value : OffsetReading) :
    of? value.reading.wholeMillis value.offset = some value.wholeMillis :=
  dif_pos value.utc_mem

namespace Reading

/-- Day and second are found again; the nanoseconds are those that are given. -/
theorem ofSeconds_seconds (r : Reading) {nanos : Nat} (ordinary : nanos < 1000000000) :
    ofSeconds? r.seconds nanos =
      some ⟨r.date, r.time.seconds, nanos, r.time.seconds_lt, by omega⟩ := by
  have inside := r.time.seconds_lt
  have day : r.seconds / 86400 + epochDay = r.date.dayNumber := by
    unfold seconds
    omega
  have second : (r.seconds % 86400).toNat = r.time.seconds := by
    unfold seconds
    omega
  have time : TimeOfDay.of? r.time.seconds nanos =
      some ⟨r.time.seconds, nanos, inside, by omega⟩ :=
    dif_pos ⟨⟨inside, by omega⟩, Or.inl ordinary⟩
  simp only [ofSeconds?, day, second, Date.ofDayNumber_dayNumber, time]
  rfl

theorem ofSeconds_seconds_zero (r : Reading) : ofSeconds? r.seconds 0 = some r.wholeSeconds :=
  r.ofSeconds_seconds (by decide)

theorem ofMillis_millis (r : Reading) (ordinary : r.time.nanos < 1000000000) :
    ofMillis? r.millis = some r.wholeMillis := by
  have second : r.millis / 1000 = r.seconds := by
    unfold millis
    omega
  have nanos : (r.millis % 1000).toNat * 1000000 = min (r.time.nanos / 1000000) 999 * 1000000 := by
    unfold millis
    omega
  rw [ofMillis?, second, nanos, r.ofSeconds_seconds (by omega)]
  rfl

/-- What is found for seconds since 1970 lies so many seconds after it. -/
theorem seconds_of_ofSeconds {s : Int} {nanos : Nat} {r : Reading}
    (found : ofSeconds? s nanos = some r) : r.seconds = s ∧ r.time.nanos = nanos := by
  simp only [ofSeconds?, Option.bind_eq_bind, Option.bind_eq_some_iff] at found
  obtain ⟨date, dated, time, timed, made⟩ := found
  cases made
  have days := Date.dayNumber_of_ofDayNumber dated
  unfold TimeOfDay.of? at timed
  split at timed
  · cases timed
    refine ⟨?_, rfl⟩
    simp only [seconds, days]
    omega
  · cases timed

/-- What is found for whole seconds has nothing below the second. -/
theorem wholeSeconds_of_ofSeconds {s : Int} {r : Reading} (found : ofSeconds? s 0 = some r) :
    r.wholeSeconds = r := by
  obtain ⟨date, time⟩ := r
  obtain ⟨seconds, nanos, inside, below⟩ := time
  obtain rfl : nanos = 0 := (seconds_of_ofSeconds found).2
  rfl

/-- What is found for milliseconds since 1970 has nothing below the millisecond. -/
theorem wholeMillis_of_ofMillis {millis : Int} {r : Reading} (found : ofMillis? millis = some r) :
    r.wholeMillis = r := by
  have whole := (seconds_of_ofSeconds found).2
  obtain ⟨date, time⟩ := r
  obtain ⟨seconds, nanos, inside, below⟩ := time
  simp only [wholeMillis, TimeOfDay.wholeMillis, Reading.mk.injEq, TimeOfDay.mk.injEq, true_and]
  dsimp only at whole
  omega

/-- Seconds since 1970 stay so far inside 64 bits that milliseconds do too. -/
theorem seconds_bounds (r : Reading) :
    -10000000000000 ≤ r.seconds ∧ r.seconds ≤ 10000000000000 := by
  have days := r.date.dayNumber_bounds
  have inside := r.time.seconds_lt
  unfold seconds epochDay
  omega

end Reading
end Datastream
