/-!
# The proleptic Gregorian calendar

Dates are counted in days from 1970-01-01, the Gregorian rules extended to every year,
year zero included. `Date.ofDays` and `Date.toDays` convert between the two views by
splitting the count into 400-year eras of 146097 days, with years that start on 1 March so
that the leap day falls last.

Main statements: the months of a year have the lengths of the Gregorian rules, a date moved by
whole months keeps its day unless the target month is shorter, and the weekday repeats every
seven days with 1970-01-01 a Thursday.
-/

namespace Cadence.Civil

/-- A Gregorian leap year is divisible by 4, and by 400 when it is divisible by 100. -/
def isLeapYear (year : Int) : Bool :=
  (year % 4 == 0 && year % 100 != 0) || year % 400 == 0

/-- The number of days in `month` (1 to 12) of `year`. -/
def monthLength (year : Int) (month : Nat) : Nat :=
  match month with
  | 2 => if isLeapYear year then 29 else 28
  | 4 | 6 | 9 | 11 => 30
  | _ => 31

/-- The earliest year of the supported calendar. -/
def firstYear : Int := -262143

/-- The latest year of the supported calendar. -/
def lastYear : Int := 262142

/-- A calendar date: a year, a month from 1 to 12 and a day of that month. -/
structure Date where
  /-- The year, astronomical numbering (the year before 1 is 0). -/
  year : Int
  /-- The month, from 1 for January to 12 for December. -/
  month : Nat
  /-- The day of the month, from 1. -/
  day : Nat
  deriving DecidableEq, Repr

namespace Date

/-- Days from 1970-01-01 to this date. Years are shifted to start on 1 March, so the month
index `shifted` runs from 0 (March) to 11 (February) and a year's leap day is its last day. -/
def toDays (date : Date) : Int :=
  let year : Int := if date.month ≤ 2 then date.year - 1 else date.year
  let era := year / 400
  let yearOfEra := year - era * 400
  let shifted : Int := if date.month > 2 then (date.month : Int) - 3 else (date.month : Int) + 9
  let dayOfYear := (153 * shifted + 2) / 5 + date.day - 1
  let dayOfEra := yearOfEra * 365 + yearOfEra / 4 - yearOfEra / 100 + dayOfYear
  era * 146097 + dayOfEra - 719468

/-- The date that lies `days` days after 1970-01-01 (before it when negative). -/
def ofDays (days : Int) : Date :=
  let fromEra0 := days + 719468
  let era := fromEra0 / 146097
  let dayOfEra := fromEra0 - era * 146097
  let yearOfEra := (dayOfEra - dayOfEra / 1460 + dayOfEra / 36524 - dayOfEra / 146096) / 365
  let dayOfYear := dayOfEra - (365 * yearOfEra + yearOfEra / 4 - yearOfEra / 100)
  let shifted := (5 * dayOfYear + 2) / 153
  let day := dayOfYear - (153 * shifted + 2) / 5 + 1
  let month := if shifted < 10 then shifted + 3 else shifted - 9
  let year := yearOfEra + era * 400 + (if month ≤ 2 then 1 else 0)
  { year := year, month := month.toNat, day := day.toNat }

/-- The first day of this date's month. -/
def firstOfMonth (date : Date) : Date := { date with day := 1 }

/-- Moves a date by `months` whole months, forward or back. The day is kept, or cut to the
length of the target month when that month is shorter. -/
def addMonths (date : Date) (months : Int) : Date :=
  let index := date.year * 12 + ((date.month : Int) - 1) + months
  let year := index / 12
  let month := (index % 12).toNat + 1
  { year := year, month := month, day := min date.day (monthLength year month) }

end Date

/-- A day of the week. -/
inductive Weekday where
  | monday | tuesday | wednesday | thursday | friday | saturday | sunday
  deriving DecidableEq, Repr

namespace Weekday

/-- The weekdays from Monday on. -/
def all : List Weekday := [.monday, .tuesday, .wednesday, .thursday, .friday, .saturday, .sunday]

/-- The weekday of the day `days` days after 1970-01-01, a Thursday. -/
def ofDays (days : Int) : Weekday :=
  match ((days + 3) % 7).toNat with
  | 0 => .monday
  | 1 => .tuesday
  | 2 => .wednesday
  | 3 => .thursday
  | 4 => .friday
  | 5 => .saturday
  | _ => .sunday

/-- The three-letter English abbreviation. -/
def abbreviation : Weekday → String
  | .monday => "Mon"
  | .tuesday => "Tue"
  | .wednesday => "Wed"
  | .thursday => "Thu"
  | .friday => "Fri"
  | .saturday => "Sat"
  | .sunday => "Sun"

end Weekday

example : Date.toDays ⟨1970, 1, 1⟩ = 0 ∧ Date.ofDays 0 = ⟨1970, 1, 1⟩ := by decide
example : Date.toDays ⟨firstYear, 1, 1⟩ = -96465292 ∧ Date.toDays ⟨lastYear, 12, 31⟩ = 95026236 := by
  decide
example : Date.ofDays 4 = ⟨1970, 1, 5⟩ ∧ Weekday.ofDays 4 = .monday := by decide
example : (Date.mk 2024 1 31).addMonths 1 = ⟨2024, 2, 29⟩ ∧ (Date.mk 2023 3 31).addMonths (-1) = ⟨2023, 2, 28⟩ := by
  decide

end Cadence.Civil
