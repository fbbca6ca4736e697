import Datastream.Calendar.Date
import Datastream.Calendar.TimeOfDay

/-!
# Date-times

A date-time is a reading of calendar and clock together with how it relates to UTC: not at all,
by being UTC, or by an offset. A reading without relation carries the spec it came with.

Models the date-times of `read_datetime` and `write_datetime`: `TimeSpec.ofInt8` is `from_byte`,
`reading` is `naive_local` and `assumedMillis` is `to_utc`.
-/
namespace Datastream

structure Reading where
  date : Date
  time : TimeOfDay
  deriving DecidableEq, Repr

namespace Reading

/-- The reading 1970-01-01 00:00. -/
def epoch : Reading := ⟨⟨1970, 1, 1, by decide, by decide, by decide⟩, ⟨0, 0, by decide, by decide⟩⟩

/-- The day count of 1970-01-01. -/
def epochDay : Int := 719163

/-- Seconds from the reading 1970-01-01 00:00 to this one. -/
def seconds (r : Reading) : Int := (r.date.dayNumber - epochDay) * 86400 + r.time.seconds

/-- Milliseconds from 1970-01-01 00:00; those of a leap second run on past its second. -/
def millis (r : Reading) : Int := r.seconds * 1000 + r.time.nanos / 1000000

/-- The reading so many seconds and nanoseconds after 1970-01-01 00:00, if it is in range. -/
def ofSeconds? (seconds : Int) (nanos : Nat) : Option Reading := do
  let date ← Date.ofDayNumber? (seconds / 86400 + epochDay)
  let time ← TimeOfDay.of? (seconds % 86400).toNat nanos
  return ⟨date, time⟩

/-- The reading so many milliseconds after 1970-01-01 00:00, if it is in range. -/
def ofMillis? (millis : Int) : Option Reading :=
  ofSeconds? (millis / 1000) ((millis % 1000).toNat * 1000000)

end Reading

/-- How a reading relates to UTC, as far as it is known. -/
inductive TimeSpec
  | localUnknown
  | localStandard
  | localDst
  | utc
  | offsetFromUtc
  deriving DecidableEq, Repr

namespace TimeSpec

def toInt8 : TimeSpec → Int8
  | localUnknown => -1
  | localStandard => 0
  | localDst => 1
  | utc => 2
  | offsetFromUtc => 3

/-- Unknown bytes mean local time. -/
def ofInt8 (b : Int8) : TimeSpec :=
  if b = 0 then localStandard
  else if b = 1 then localDst
  else if b = 2 then utc
  else if b = 3 then offsetFromUtc
  else localUnknown

end TimeSpec

/-- An offset east of UTC, in seconds, below a day either way. -/
structure UtcOffset where
  seconds : Int32
  seconds_mem : -86400 < seconds.toInt ∧ seconds.toInt < 86400
  deriving DecidableEq, Repr

namespace UtcOffset

def of? (seconds : Int32) : Option UtcOffset :=
  if h : -86400 < seconds.toInt ∧ seconds.toInt < 86400 then some ⟨seconds, h⟩ else none

/-- The day on which a local reading at this offset falls in UTC, as a day count. -/
def utcDay (o : UtcOffset) (r : Reading) : Int :=
  r.date.dayNumber + ((r.time.seconds : Int) - o.seconds.toInt) / 86400

end UtcOffset

/-- A local reading at an offset whose day in UTC is in range. -/
structure OffsetReading where
  reading : Reading
  offset : UtcOffset
  utc_mem : (Date.ofDayNumber? (offset.utcDay reading)).isSome
  deriving DecidableEq, Repr

/-- The instant of a local reading at an offset, if it is in range. -/
def OffsetReading.of? (reading : Reading) (offset : UtcOffset) : Option OffsetReading :=
  if h : (Date.ofDayNumber? (offset.utcDay reading)).isSome then some ⟨reading, offset, h⟩ else none

/-- A reading together with its relation to UTC. -/
inductive DateTime
  | unanchored (reading : Reading) (spec : TimeSpec)
  | utc (reading : Reading)
  | offset (value : OffsetReading)
  deriving DecidableEq, Repr

namespace DateTime

def spec : DateTime → TimeSpec
  | unanchored _ spec => spec
  | utc _ => .utc
  | offset _ => .offsetFromUtc

def reading : DateTime → Reading
  | unanchored reading _ => reading
  | utc reading => reading
  | offset value => value.reading

/-- Milliseconds since the epoch, for a reading that is anchored to UTC. -/
def utcMillis? : DateTime → Option Int
  | unanchored .. => none
  | utc reading => some reading.millis
  | offset value => some (value.reading.millis - value.offset.seconds.toInt * 1000)

/-- Milliseconds since the epoch, an unanchored reading being taken for UTC. -/
def assumedMillis (t : DateTime) : Int := t.utcMillis?.getD t.reading.millis

end DateTime
end Datastream
