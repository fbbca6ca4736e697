/-!
# Times of day

Seconds since midnight and nanoseconds. A leap second is a second with another second's worth of
nanoseconds on top. Of itself only the last second of a minute has one, but in a zone whose offset
is no whole number of minutes that second may be any other.
-/
namespace Datastream

/-- A time of day, leap seconds included. -/
structure TimeOfDay where
  seconds : Nat
  nanos : Nat
  seconds_lt : seconds < 86400
  nanos_lt : nanos < 2000000000
  deriving DecidableEq, Repr

namespace TimeOfDay

/-- The time of a second and its nanoseconds, if there is one; leap seconds end a minute. -/
def of? (seconds nanos : Nat) : Option TimeOfDay :=
  if h : (seconds < 86400 ∧ nanos < 2000000000) ∧ (nanos < 1000000000 ∨ seconds % 60 = 59) then
    some ⟨seconds, nanos, h.1.1, h.1.2⟩
  else none

/-- Milliseconds since midnight; a leap second counts as the last millisecond before it ends. -/
def millis (t : TimeOfDay) : Nat := t.seconds * 1000 + min (t.nanos / 1000000) 999

/-- The time that lies so many milliseconds after midnight. -/
def ofMillis? (millis : Nat) : Option TimeOfDay := of? (millis / 1000) (millis % 1000 * 1000000)

end TimeOfDay
end Datastream
