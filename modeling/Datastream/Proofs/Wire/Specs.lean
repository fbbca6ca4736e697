import Datastream.Proofs.Wire.Yields

/-!
# Date-times and their specs

How long a date-time is on the wire is decided twice. The writer puts an offset behind a value that has
one (`length_dateTime`); the reader looks for one behind a spec that announces one
(`yields_dateTime_length`). The two agree about every date-time but a local reading that carries the spec
of an offset and has none: this one reads into what comes after it, and all others come back
(`DateTime.comesBack_iff`).

The writer is `write_datetime`, the reader `read_datetime`.
-/
namespace Datastream

/-- The same day, and the same millisecond of it. -/
def Reading.SameMillis (r r' : Reading) : Prop := r.date = r'.date ∧ r.time.millis = r'.time.millis

theorem Reading.wholeMillis_sameMillis (r : Reading) : r.wholeMillis.SameMillis r := by
  refine ⟨rfl, ?_⟩
  simp only [wholeMillis, TimeOfDay.wholeMillis, TimeOfDay.millis]
  omega

/-- With these bytes behind it, a date-time that was written is read again: its own bytes and no others
are taken, and its spec and its local reading are what they were, to the millisecond. -/
def DateTime.ComesBack (t : DateTime) (rest : Bytes) : Prop :=
  ∃ t', Wire.readDateTime (Wire.dateTime t ++ rest) = .ok t' rest ∧ t'.spec = t.spec ∧
    t'.reading.SameMillis t.reading

theorem DateTime.normalize_spec (t : DateTime) : t.normalize.spec = t.spec := by
  cases t with
  | unanchored reading spec => cases spec <;> rfl
  | utc reading => rfl
  | offset value => rfl

theorem DateTime.normalize_reading (t : DateTime) : t.normalize.reading = t.reading.wholeMillis := by
  cases t with
  | unanchored reading spec => cases spec <;> rfl
  | utc reading => rfl
  | offset value => rfl

namespace Wire

/-- The bytes that are written are as many as the value needs. -/
theorem length_dateTime (t : DateTime) : (dateTime t).length =
    match t with
    | .offset _ => 13
    | .unanchored .. | .utc _ => 9 := by
  cases t <;> simp [dateTime, date, time, int8, int32, Bytes.u32, Bytes.length_ofNat]

theorem yields_date_length : Yields readDate fun n _ => n = 4 := by
  refine yields_int32.bind fun n day four => ?_
  dsimp only
  split
  · exact .pure four
  · exact .fail _

theorem yields_time_length : Yields readTime fun n _ => n = 4 := by
  refine yields_int32.bind fun n millis four => ?_
  dsimp only
  split
  · exact .pure four
  · exact .fail _

theorem yields_int8_length : Yields readInt8 fun n _ => n = 1 := ((Yields.number 1).fmap _).fmap _

/-- The bytes that are taken are as many as the spec announces. -/
theorem yields_dateTime_length : Yields readDateTime fun n t =>
    n = if t.spec = .offsetFromUtc then 13 else 9 := by
  refine yields_date_length.bind fun day date four => yields_time_length.bind fun clock time four' =>
    yields_int8_length.bind fun byte spec one => ?_
  split
  · exact .pure (by simp [DateTime.spec]; omega)
  · refine yields_int32.bind fun n seconds four'' => ?_
    split
    · exact .fail _
    · split
      · exact .fail _
      · exact .pure (by simp [DateTime.spec]; omega)
  · next no_offset =>
    exact .pure (by rw [DateTime.spec, if_neg no_offset]; omega)

end Wire

namespace DateTime

/-- A local reading that carries the spec of an offset takes nine bytes, and that spec is not read from fewer
than thirteen. -/
theorem not_comesBack (reading : Reading) (rest : Bytes) :
    ¬ (unanchored reading .offsetFromUtc).ComesBack rest := by
  rintro ⟨t', read, spec, -⟩
  obtain ⟨n, taken, announced⟩ := Wire.yields_dateTime_length _ _ _ read
  have written := Wire.length_dateTime (.unanchored reading .offsetFromUtc)
  rw [if_pos (show t'.spec = .offsetFromUtc from spec)] at announced
  rw [List.length_append] at taken
  dsimp only at written
  omega

/-- Every date-time comes back, whatever is behind it, but for a local reading that carries the spec of an
offset; and that one never does. -/
theorem comesBack_iff (t : DateTime) (rest : Bytes) :
    t.ComesBack rest ↔ ∀ reading, t ≠ .unanchored reading .offsetFromUtc := by
  constructor
  · rintro back reading rfl
    exact not_comesBack reading rest back
  · intro honest
    refine ⟨t.normalize, Wire.reads_dateTime t honest rest, t.normalize_spec, ?_⟩
    rw [normalize_reading]
    exact t.reading.wholeMillis_sameMillis

/-- The four bytes behind a local reading that carries the spec of an offset are taken for the offset. -/
theorem following_bytes_taken_for_offset :
    let t : DateTime := .unanchored .epoch .offsetFromUtc
    (¬ t.ComesBack [] ∧ ¬ t.ComesBack [0, 0, 14, 16, 7]) ∧
      ∃ value, Wire.readDateTime (Wire.dateTime t ++ [0, 0, 14, 16, 7]) = .ok (.offset value) [7] ∧
        value.offset.seconds = 3600 :=
  ⟨⟨not_comesBack .epoch [], not_comesBack .epoch [0, 0, 14, 16, 7]⟩,
    ⟨.epoch, ⟨3600, by decide⟩, by decide⟩, by with_unfolding_all rfl, rfl⟩

end DateTime
end Datastream
