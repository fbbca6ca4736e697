/-!
# Dates

Days of the proleptic Gregorian calendar with astronomical years, counted from 0001-01-01 as day
one. `Date.next` is the calendar's own successor, given by month lengths alone; `dayNumber` and
`ofDayNumber?` turn dates into day counts and back in closed form.

The day counts are those that `write_date` and `read_date` carry, moved by a constant.
-/
namespace Datastream

/-- Leap years are the multiples of four, without those centuries that 400 does not divide. -/
def isLeapYear (year : Int) : Bool := year % 4 == 0 && (year % 100 != 0 || year % 400 == 0)

def daysInMonth (year : Int) (month : Nat) : Nat :=
  if month = 2 then (if isLeapYear year then 29 else 28)
  else if month = 4 ∨ month = 6 ∨ month = 9 ∨ month = 11 then 30
  else 31

/-- A day between -262143-01-01 and 262142-12-31. -/
structure Date where
  year : Int
  month : Nat
  day : Nat
  year_mem : -262143 ≤ year ∧ year ≤ 262142
  month_mem : 1 ≤ month ∧ month ≤ 12
  day_mem : 1 ≤ day ∧ day ≤ daysInMonth year month
  deriving DecidableEq, Repr

namespace Date

/-- The day of a year, month and day, if there is one in range. -/
def of? (year : Int) (month day : Nat) : Option Date :=
  if h : (-262143 ≤ year ∧ year ≤ 262142) ∧ (1 ≤ month ∧ month ≤ 12) ∧
      (1 ≤ day ∧ day ≤ daysInMonth year month) then
    some ⟨year, month, day, h.1, h.2.1, h.2.2⟩
  else none

/-- The day after, by the lengths of months and years. -/
def next (d : Date) : Option Date :=
  if d.day < daysInMonth d.year d.month then of? d.year d.month (d.day + 1)
  else if d.month < 12 then of? d.year (d.month + 1) 1
  else of? (d.year + 1) 1 1

/-- How many days of a year come before its `month`. -/
def daysBeforeMonth (year : Int) : (month : Nat) → Nat
  | 0 | 1 => 0
  | month + 2 => daysBeforeMonth year (month + 1) + daysInMonth year (month + 1)

/-- How many days come before a year, day one being 0001-01-01. -/
def daysBeforeYear (year : Int) : Int :=
  365 * (year - 1) + (year - 1) / 4 - (year - 1) / 100 + (year - 1) / 400

/-- The count of days up to and including this one, 0001-01-01 being day one. -/
def dayNumber (d : Date) : Int :=
  daysBeforeYear d.year + daysBeforeMonth d.year d.month + d.day

/-- The year in which a day count falls, and how many of its days come before that day. -/
def yearOf (n : Int) : Int × Nat :=
  let z := n - 1
  let r := (z % 146097).toNat
  let century := min 3 (r / 36524)
  let r := r - 36524 * century
  let four := r / 1461
  let r := r % 1461
  let one := min 3 (r / 365)
  (400 * (z / 146097) + 100 * century + 4 * four + one + 1, r - 365 * one)

/-- The month and day, looking from `month` on, that `before` days precede. -/
def monthFrom (year : Int) : (left : Nat) → (month before : Nat) → Nat × Nat
  | 0, month, before => (month, before + 1)
  | left + 1, month, before =>
    if before < daysInMonth year month then (month, before + 1)
    else monthFrom year left (month + 1) (before - daysInMonth year month)

/-- The date of a day count, if it is in range. -/
def ofDayNumber? (n : Int) : Option Date :=
  let (year, before) := yearOf n
  let (month, day) := monthFrom year 11 1 before
  of? year month day

/-- What the Julian day count adds to `dayNumber`. -/
def julianOffset : Int := 1721425

/-- The Julian day number, by which dates travel. -/
def julianDay (d : Date) : Int := d.dayNumber + julianOffset

def ofJulianDay? (j : Int) : Option Date := ofDayNumber? (j - julianOffset)

/-- A number in digits, with zeros in front up to a width. -/
def padded (width n : Nat) : String :=
  let digits := toString n
  String.ofList (List.replicate (width - digits.length) '0') ++ digits

/-- Year, month and day in digits; a year that is not one of 0 to 9999 carries its sign. -/
def text (d : Date) : String :=
  let sign := if d.year < 0 then "-" else if 9999 < d.year then "+" else ""
  sign ++ padded 4 d.year.natAbs ++ "-" ++ padded 2 d.month ++ "-" ++ padded 2 d.day

end Date
end Datastream
