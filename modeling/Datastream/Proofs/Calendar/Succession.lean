import Datastream.Proofs.Calendar.DayCount

/-!
# The calendar, day by day

`next` goes from a day to the day after it by the lengths of months and years alone, while `dayNumber`
counts the days in closed form. The two agree about every day of the calendar, in leap years and before
year one as well: the day after has the next count (`dayNumber_next`), and as a date is told by its
count, the date with the next count is the day after (`next_eq_some_iff`). No day is after the last one
(`next_eq_none_iff`), and none has a higher count (`dayNumber_le_last`).
-/
namespace Datastream.Date

def last : Date := ⟨262142, 12, 31, by decide, by decide, by decide⟩

theorem of?_eq_some_iff {year : Int} {month day : Nat} {d : Date} :
    of? year month day = some d ↔ d.year = year ∧ d.month = month ∧ d.day = day := by
  constructor
  · intro found
    unfold of? at found
    split at found
    · cases found
      exact ⟨rfl, rfl, rfl⟩
    · cases found
  · rintro ⟨rfl, rfl, rfl⟩
    exact dif_pos ⟨d.year_mem, d.month_mem, d.day_mem⟩

theorem of?_ne_none {year : Int} {month day : Nat} (years : -262143 ≤ year ∧ year ≤ 262142)
    (months : 1 ≤ month ∧ month ≤ 12) (days : 1 ≤ day ∧ day ≤ daysInMonth year month) :
    of? year month day ≠ none := by
  rw [of?, dif_pos ⟨years, months, days⟩]
  exact Option.some_ne_none _

theorem dayNumber_inj {d d' : Date} (same : d.dayNumber = d'.dayNumber) : d = d' := by
  have found := ofDayNumber_dayNumber d
  rw [same, ofDayNumber_dayNumber] at found
  exact (Option.some.inj found).symm

theorem daysInMonth_pos (year : Int) (month : Nat) : 1 ≤ daysInMonth year month := by
  unfold daysInMonth
  split
  · split <;> omega
  · split <;> omega

theorem daysInMonth_december (year : Int) : daysInMonth year 12 = 31 := rfl

theorem daysBeforeYear_succ (year : Int) :
    daysBeforeYear (year + 1) = daysBeforeYear year + daysInYear year := by
  simp only [daysBeforeYear, daysInYear, isLeapYear_eq, decide_eq_true_eq]
  split <;> omega

theorem daysBeforeMonth_december (year : Int) : daysBeforeMonth year 12 + 31 = daysInYear year := by
  have months := daysBeforeMonth_succ year (show 1 ≤ 12 by decide)
  rw [daysBeforeMonth_thirteen, daysInMonth_december] at months
  exact months.symm

/-- The day after has the next count: within a month, from a month to the next, and from a year to the
next. -/
theorem dayNumber_next {d d' : Date} (after : d.next = some d') : d'.dayNumber = d.dayNumber + 1 := by
  have days := d.day_mem
  unfold next at after
  split at after
  · obtain ⟨year, month, day⟩ := of?_eq_some_iff.mp after
    simp only [dayNumber, year, month, day]
    omega
  · next monthEnds =>
    split at after
    · obtain ⟨year, month, day⟩ := of?_eq_some_iff.mp after
      have months := daysBeforeMonth_succ d.year d.month_mem.1
      simp only [dayNumber, year, month, day, months]
      omega
    · next yearEnds =>
      obtain ⟨year, month, day⟩ := of?_eq_some_iff.mp after
      have december : d.month = 12 := Nat.le_antisymm d.month_mem.2 (Nat.le_of_not_lt yearEnds)
      have years := daysBeforeYear_succ d.year
      have months := daysBeforeMonth_december d.year
      have start : daysBeforeMonth (d.year + 1) 1 = 0 := rfl
      rw [december, daysInMonth_december] at days monthEnds
      simp only [dayNumber, year, month, day, december, years, start]
      omega

/-- Only the last day of the calendar has none after it. -/
theorem next_eq_none_iff (d : Date) : d.next = none ↔ d = last := by
  constructor
  · intro ends
    have years := d.year_mem
    have months := d.month_mem
    have days := d.day_mem
    unfold next at ends
    split at ends
    · next inside => exact absurd ends (of?_ne_none years months ⟨by omega, inside⟩)
    · next monthEnds =>
      split at ends
      · next inside =>
        exact absurd ends (of?_ne_none years ⟨by omega, inside⟩ ⟨Nat.le_refl 1, daysInMonth_pos _ _⟩)
      · next yearEnds =>
        have december : d.month = 12 := Nat.le_antisymm months.2 (Nat.le_of_not_lt yearEnds)
        have lastYear : d.year = 262142 := by
          refine Decidable.byContradiction fun earlier => ?_
          exact of?_ne_none ⟨by omega, by omega⟩ (by decide) ⟨Nat.le_refl 1, daysInMonth_pos _ _⟩ ends
        rw [december, daysInMonth_december] at days monthEnds
        have lastDay : d.day = 31 := by omega
        have found : of? 262142 12 31 = some d := of?_eq_some_iff.mpr ⟨lastYear, december, lastDay⟩
        exact Option.some.inj (found.symm.trans (of?_eq_some_iff.mpr ⟨rfl, rfl, rfl⟩))
  · rintro rfl
    rfl

theorem dayNumber_le_last (d : Date) : d.dayNumber ≤ last.dayNumber := by
  have years := d.year_mem
  have inside := daysBefore_lt_daysInYear d
  have days := d.day_mem
  have leap : daysInYear d.year ≤ 366 := by
    unfold daysInYear
    split <;> decide
  have common : d.year = 262142 → daysInYear d.year = 365 := by
    intro year
    rw [year]
    rfl
  have count : last.dayNumber = 95745399 := by decide
  rw [count]
  simp only [dayNumber, daysBeforeYear]
  omega

/-- Of two dates one is the day after the other just if it has the next count. -/
theorem next_eq_some_iff (d d' : Date) : d.next = some d' ↔ d'.dayNumber = d.dayNumber + 1 := by
  constructor
  · exact dayNumber_next
  · intro count
    cases after : d.next with
    | some e =>
      have same := dayNumber_next after
      rw [dayNumber_inj (same.trans count.symm)]
    | none =>
      obtain rfl := (next_eq_none_iff d).mp after
      have most := dayNumber_le_last d'
      omega

end Datastream.Date
