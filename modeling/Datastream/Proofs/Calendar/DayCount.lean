import Datastream.Calendar.Date

/-!
# Day counts

Counting days and finding the date of a count are inverse: `ofDayNumber?` finds every date again by
its count, and what it finds for a count has that count. A year is taken apart into whole cycles of
400 years, centuries, spans of four years and single years; a month is found by the days before it.
-/
namespace Datastream.Date

def daysInYear (year : Int) : Nat := if isLeapYear year then 366 else 365

theorem isLeapYear_eq (year : Int) :
    isLeapYear year = decide (year % 4 = 0 ∧ (year % 100 ≠ 0 ∨ year % 400 = 0)) := by
  rw [Bool.eq_iff_iff]
  simp [isLeapYear]

/-- The days before a year, by whole cycles of 400 years, centuries, spans of four and single years. -/
theorem daysBeforeYear_of_parts (cycle : Int) {century four one : Nat} (hc : century ≤ 3)
    (hf : four ≤ 24) (ho : one ≤ 3) :
    daysBeforeYear (400 * cycle + 100 * century + 4 * four + one + 1) =
      146097 * cycle + 36524 * century + 1461 * four + 365 * one := by
  simp only [daysBeforeYear]
  omega

/-- The year of a day count, from the count up to that year and the days of it that came before. -/
theorem yearOf_daysBeforeYear (year : Int) (before : Nat) (inside : before < daysInYear year) :
    yearOf (daysBeforeYear year + before + 1) = (year, before) := by
  obtain ⟨cycle, century, four, one, parts, hc, hf, ho⟩ :
      ∃ (cycle : Int) (century four one : Nat),
        year - 1 = 400 * cycle + 100 * century + 4 * four + one ∧
          century ≤ 3 ∧ four ≤ 24 ∧ one ≤ 3 :=
    ⟨(year - 1) / 400, ((year - 1) % 400 / 100).toNat, ((year - 1) % 100 / 4).toNat,
      ((year - 1) % 4).toNat, by omega, by omega, by omega, by omega⟩
  -- Only the last year of a span of four can be a leap year, and not that of a century but the last.
  have length : before ≤ 364 ∨ (before = 365 ∧ one = 3 ∧ (four < 24 ∨ century = 3)) := by
    simp only [daysInYear, isLeapYear_eq, decide_eq_true_eq] at inside
    split at inside <;> omega
  have days : daysBeforeYear year =
      146097 * cycle + 36524 * century + 1461 * four + 365 * one := by
    rw [← daysBeforeYear_of_parts cycle hc hf ho, ← parts, Int.sub_add_cancel]
  have whole : (daysBeforeYear year + before + 1 - 1) / 146097 = cycle := by omega
  have rest : ((daysBeforeYear year + before + 1 - 1) % 146097).toNat =
      36524 * century + 1461 * four + 365 * one + before := by omega
  have centuries : min 3 ((36524 * century + 1461 * four + 365 * one + before) / 36524) = century := by
    omega
  have fours : (36524 * century + 1461 * four + 365 * one + before - 36524 * century) / 1461 =
      four := by omega
  have single : (36524 * century + 1461 * four + 365 * one + before - 36524 * century) % 1461 =
      365 * one + before := by omega
  have ones : min 3 ((365 * one + before) / 365) = one := by omega
  simp only [yearOf, whole, rest, centuries, fours, single, ones, Prod.mk.injEq]
  omega

theorem daysBeforeMonth_succ (year : Int) {month : Nat} (positive : 1 ≤ month) :
    daysBeforeMonth year (month + 1) = daysBeforeMonth year month + daysInMonth year month := by
  obtain ⟨m, rfl⟩ := Nat.exists_eq_add_of_le' positive
  rfl

theorem daysBeforeMonth_mono (year : Int) {month later : Nat} (positive : 1 ≤ month)
    (le : month ≤ later) : daysBeforeMonth year month ≤ daysBeforeMonth year later := by
  induction le with
  | refl => exact Nat.le_refl _
  | step le ih =>
    rw [daysBeforeMonth_succ year (Nat.le_trans positive le)]
    exact Nat.le_trans ih (Nat.le_add_right _ _)

theorem daysBeforeMonth_thirteen (year : Int) : daysBeforeMonth year 13 = daysInYear year := by
  cases leap : isLeapYear year <;> simp [daysBeforeMonth, daysInMonth, daysInYear, leap]

/-- The month is found by the days before it, looking from any month on that is not behind it. -/
theorem monthFrom_daysBeforeMonth (year : Int) (left month target before : Nat)
    (positive : 1 ≤ month) (le : month ≤ target) (near : target ≤ month + left)
    (inside : before < daysInMonth year target) :
    monthFrom year left month (daysBeforeMonth year target - daysBeforeMonth year month + before) =
      (target, before + 1) := by
  induction left generalizing month with
  | zero =>
    obtain rfl : month = target := by omega
    simp [monthFrom]
  | succ left ih =>
    rcases Nat.eq_or_lt_of_le le with rfl | lt
    · simp [monthFrom, inside]
    · have step := daysBeforeMonth_succ year positive
      have mono := daysBeforeMonth_mono year (Nat.le_add_left 1 month) lt
      have later := ih (month + 1) (by omega) lt (by omega)
      have days : daysBeforeMonth year target - daysBeforeMonth year month + before -
          daysInMonth year month =
          daysBeforeMonth year target - daysBeforeMonth year (month + 1) + before := by omega
      rw [monthFrom, if_neg (by omega), days, later]

theorem daysBefore_lt_daysInYear (d : Date) :
    daysBeforeMonth d.year d.month + (d.day - 1) < daysInYear d.year := by
  have length := d.day_mem
  have step := daysBeforeMonth_succ d.year d.month_mem.1
  have last : daysBeforeMonth d.year (d.month + 1) ≤ daysBeforeMonth d.year 13 :=
    daysBeforeMonth_mono d.year (by omega) (Nat.succ_le_succ d.month_mem.2)
  rw [daysBeforeMonth_thirteen] at last
  omega

/-- Every date is found by its day count. -/
theorem ofDayNumber_dayNumber (d : Date) : ofDayNumber? d.dayNumber = some d := by
  have length := d.day_mem
  have count : d.dayNumber =
      daysBeforeYear d.year + (daysBeforeMonth d.year d.month + (d.day - 1) : Nat) + 1 := by
    simp only [dayNumber]
    omega
  have month : monthFrom d.year 11 1 (daysBeforeMonth d.year d.month + (d.day - 1)) =
      (d.month, d.day) := by
    have found := monthFrom_daysBeforeMonth d.year 11 1 d.month (d.day - 1) (Nat.le_refl 1)
      d.month_mem.1 d.month_mem.2 (by omega)
    rw [show daysBeforeMonth d.year 1 = 0 from rfl, Nat.sub_zero, Nat.sub_add_cancel length.1] at found
    exact found
  rw [ofDayNumber?, count, yearOf_daysBeforeYear _ _ (daysBefore_lt_daysInYear d)]
  simp only [month]
  exact dif_pos ⟨d.year_mem, d.month_mem, d.day_mem⟩

/-- Day counts stay far inside 32 bits. -/
theorem dayNumber_bounds (d : Date) : -100000000 ≤ d.dayNumber ∧ d.dayNumber ≤ 100000000 := by
  have years := d.year_mem
  have inside := daysBefore_lt_daysInYear d
  have length := d.day_mem
  have leap : daysInYear d.year ≤ 366 := by
    unfold daysInYear
    split <;> decide
  simp only [dayNumber, daysBeforeYear]
  omega

/-- A day count is taken apart into a year and the days of it that came before. -/
theorem daysBeforeYear_yearOf (n : Int) :
    daysBeforeYear (yearOf n).1 + (yearOf n).2 + 1 = n := by
  obtain ⟨cycle, inside, parts, small⟩ : ∃ (cycle : Int) (inside : Nat),
      n - 1 = 146097 * cycle + inside ∧ inside < 146097 :=
    ⟨(n - 1) / 146097, ((n - 1) % 146097).toNat, by omega, by omega⟩
  obtain ⟨century, hc⟩ : ∃ century, century = min 3 (inside / 36524) := ⟨_, rfl⟩
  obtain ⟨left, hl⟩ : ∃ left, left = inside - 36524 * century := ⟨_, rfl⟩
  obtain ⟨one, ho⟩ : ∃ one, one = min 3 (left % 1461 / 365) := ⟨_, rfl⟩
  have whole : (n - 1) / 146097 = cycle := by omega
  have rest : ((n - 1) % 146097).toNat = inside := by omega
  have centuries : century ≤ 3 := by omega
  have fours : left / 1461 ≤ 24 := by omega
  have singles : one ≤ 3 := by omega
  have days := daysBeforeYear_of_parts cycle centuries fours singles
  simp only [yearOf, whole, rest, ← hc, ← hl, ← ho, days]
  omega

theorem daysBeforeMonth_monthFrom (year : Int) (left month before : Nat) (positive : 1 ≤ month) :
    daysBeforeMonth year (monthFrom year left month before).1 + (monthFrom year left month before).2 =
      daysBeforeMonth year month + before + 1 := by
  induction left generalizing month before with
  | zero => rfl
  | succ left ih =>
    unfold monthFrom
    split
    · rfl
    · have step := daysBeforeMonth_succ year positive
      have later := ih (month + 1) (before - daysInMonth year month) (by omega)
      omega

/-- The date that is found for a day count has that count. -/
theorem dayNumber_of_ofDayNumber {n : Int} {d : Date} (found : ofDayNumber? n = some d) :
    d.dayNumber = n := by
  have years := daysBeforeYear_yearOf n
  have months := daysBeforeMonth_monthFrom (yearOf n).1 11 1 (yearOf n).2 (Nat.le_refl 1)
  have start : daysBeforeMonth (yearOf n).1 1 = 0 := rfl
  simp only [ofDayNumber?, of?] at found
  split at found
  · cases found
    simp only [dayNumber]
    omega
  · cases found

theorem ofJulianDay_julianDay (d : Date) : ofJulianDay? d.julianDay = some d := by
  rw [ofJulianDay?, julianDay, Int.add_sub_cancel, ofDayNumber_dayNumber]

end Datastream.Date
