import DataPortal.Text.Digit
/-!
# Dates

A date of the Gregorian calendar in the years 1 to 9999. The proof that the day
exists is part of the date, so a date that was read is a date that is real.
-/
namespace DataPortal

/-- A year with a 29th of February. -/
def isLeapYear (year : Nat) : Bool :=
  year % 4 == 0 && (year % 100 != 0 || year % 400 == 0)

/-- How many days a month has. -/
def daysInMonth (year month : Nat) : Nat :=
  if month = 2 then (if isLeapYear year then 29 else 28)
  else if month = 4 ∨ month = 6 ∨ month = 9 ∨ month = 11 then 30
  else 31

/-- A day that exists in the years 1 to 9999. -/
def IsRealDay (year month day : Nat) : Prop :=
  1 ≤ year ∧ year ≤ 9999 ∧ 1 ≤ month ∧ month ≤ 12 ∧ 1 ≤ day ∧ day ≤ daysInMonth year month

instance (year month day : Nat) : Decidable (IsRealDay year month day) := by
  unfold IsRealDay
  infer_instance

/-- A calendar date. -/
structure Date where
  year : Nat
  month : Nat
  day : Nat
  real : IsRealDay year month day
  deriving DecidableEq, Repr

namespace Date

/-- The date of three numbers, if the day exists. -/
def of? (year month day : Nat) : Option Date :=
  if h : IsRealDay year month day then some ⟨year, month, day, h⟩ else none

theorem isSome_of? (year month day : Nat) :
    (of? year month day).isSome = true ↔ IsRealDay year month day := by
  unfold of?
  split <;> simp_all

/-- The day after, up to the end of year 9999. -/
def next? (d : Date) : Option Date :=
  if d.day < daysInMonth d.year d.month then of? d.year d.month (d.day + 1)
  else if d.month < 12 then of? d.year (d.month + 1) 1
  else of? (d.year + 1) 1 1

/-- The day before, down to the start of year 1. -/
def previous? (d : Date) : Option Date :=
  if 1 < d.day then of? d.year d.month (d.day - 1)
  else if 1 < d.month then of? d.year (d.month - 1) (daysInMonth d.year (d.month - 1))
  else of? (d.year - 1) 12 31

/-! ## Counting days -/

/-- The days of the years before a year. -/
def daysBeforeYear (year : Nat) : Nat :=
  365 * (year - 1) + (year - 1) / 4 - (year - 1) / 100 + (year - 1) / 400

/-- The days of the first months of a year. -/
def daysOfMonths (year : Nat) : Nat → Nat
  | 0 => 0
  | months + 1 => daysOfMonths year months + daysInMonth year (months + 1)

/-- The days from the first day of year 1 to the date. -/
def dayNumber (d : Date) : Nat :=
  daysBeforeYear d.year + daysOfMonths d.year (d.month - 1) + (d.day - 1)

/-- The month and the day of a day of a year, both from one; the month is searched
for among the months from `month` on. -/
def monthOfDay (year : Nat) : Nat → Nat → Nat → Nat × Nat
  | 0, month, day => (month, day + 1)
  | left + 1, month, day =>
    if day < daysInMonth year month then (month, day + 1)
    else monthOfDay year left (month + 1) (day - daysInMonth year month)

/-- The date that lies a number of days after the first day of year 1. Days are
counted off in cycles of 400, 100, 4 and 1 years. -/
def ofDayNumber? (n : Nat) : Option Date :=
  let inCycle := n % 146097
  let century := min (inCycle / 36524) 3
  let inCentury := inCycle - 36524 * century
  let quad := inCentury / 1461
  let inQuad := inCentury - 1461 * quad
  let single := min (inQuad / 365) 3
  let year := 400 * (n / 146097) + 100 * century + 4 * quad + single + 1
  let (month, day) := monthOfDay year 11 1 (inQuad - 365 * single)
  of? year month day

/-! ## Text -/

/-- The text `year-month-day` with four, two and two digits. -/
def text (d : Date) : List Char :=
  Text.paddedDigits 4 d.year ++ '-' :: Text.paddedDigits 2 d.month ++
    '-' :: Text.paddedDigits 2 d.day

end Date
end DataPortal
