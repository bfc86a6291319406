import Mathlib
import Cadence.Time.Civil

/-!
# Days and dates of the proleptic Gregorian calendar

`Date.ofDays` and `Date.toDays` split a day count into 400-year eras of years that start on
1 March. This module reads both through one sequence: `monthStart index`, the day count of the
first day of the month `index = 12 * year + month - 1`. Each month starts `monthLength` days
after the one before (`monthStart_succ`), so the month starts increase, and every day count
lies in exactly one month.

Main statements: `Date.ofDays_bracket` (the date of a day count is the month that holds it, with
the day counted from its first day), the round trips `Date.toDays_ofDays` and
`Date.ofDays_toDays`, and `Date.valid_ofDays`.

The hard step is the year within an era. `Date.ofDays` finds it as a quotient by 365 after
taking out one day per four-year cycle and putting back one per century; `yearOfEra_bracket`
shows that this lands between the year's first day and the next year's.
-/

namespace Cadence.Civil

/-- Days from 1 March of the year 0 to 1 March of `year`: 365 a year, and one more for each
year whose February has a leap day. -/
def marchYearStart (year : Int) : Int := 365 * year + year / 4 - year / 100 + year / 400

/-- Days from 1 March to the first day of the month `shifted` months later, for `shifted` from
0 (March) to 11 (February). -/
def monthOffset (shifted : Int) : Int := (153 * shifted + 2) / 5

/-- The day count of the first day of the month `index`, where January of `year` has the index
`12 * year`. -/
def monthStart (index : Int) : Int :=
  marchYearStart ((index - 2) / 12) + monthOffset ((index - 2) % 12) - 719468

/-- The position of the date's month in `monthStart`. -/
def Date.monthIndex (date : Date) : Int := date.year * 12 + ((date.month : Int) - 1)

/-- A valid date names one of the twelve months and a day of that month. -/
structure Date.Valid (date : Date) : Prop where
  month_pos : 1 ≤ date.month
  month_le : date.month ≤ 12
  day_pos : 1 ≤ date.day
  day_le : date.day ≤ monthLength date.year date.month

/-- The first day of the month `index`. -/
def firstOfIndex (index : Int) : Date := ⟨index / 12, (index % 12).toNat + 1, 1⟩

/-! ### Years and months counted from March -/

theorem isLeapYear_iff (year : Int) :
    isLeapYear year = true ↔ (year % 4 = 0 ∧ year % 100 ≠ 0) ∨ year % 400 = 0 := by
  simp [isLeapYear]

/-- A year from March has 366 days when the February at its end has a leap day. -/
theorem marchYearStart_succ (year : Int) :
    marchYearStart (year + 1) = marchYearStart year + if isLeapYear (year + 1) then 366 else 365 := by
  unfold marchYearStart
  split
  · rename_i leap
    rw [isLeapYear_iff] at leap
    omega
  · rename_i common
    rw [isLeapYear_iff] at common
    omega

/-- An era of 400 years has 146097 days. -/
theorem marchYearStart_era (era year : Int) :
    marchYearStart (era * 400 + year) = era * 146097 + marchYearStart year := by
  unfold marchYearStart
  omega

/-- Within an era the four-hundredth year adds nothing. -/
theorem marchYearStart_of_lt {year : Int} (nonneg : 0 ≤ year) (lt : year < 400) :
    marchYearStart year = 365 * year + year / 4 - year / 100 := by
  unfold marchYearStart
  omega

/-- A year's March 1 from its era and its year within the era, as `Date.toDays` counts it. -/
theorem marchYearStart_by_era (year : Int) :
    marchYearStart year = year / 400 * 146097 +
      ((year - year / 400 * 400) * 365 + (year - year / 400 * 400) / 4 -
        (year - year / 400 * 400) / 100) := by
  have split := marchYearStart_era (year / 400) (year - year / 400 * 400)
  rw [show year / 400 * 400 + (year - year / 400 * 400) = year by omega,
    marchYearStart_of_lt (show 0 ≤ year - year / 400 * 400 by omega)
      (show year - year / 400 * 400 < 400 by omega)] at split
  rw [split]
  omega

/-- A year of an era as centuries of 36524 days, four-year cycles of 1461 days and years of 365
days; the leap days of the cycles and of the last century come at their ends. -/
theorem marchYearStart_parts {year : Int} (nonneg : 0 ≤ year) (lt : year < 400) :
    marchYearStart year = 36524 * (year / 100) + 1461 * (year % 100 / 4) + 365 * (year % 4) := by
  unfold marchYearStart
  omega

theorem monthLength_ge (year : Int) (month : Nat) : 28 ≤ monthLength year month := by
  unfold monthLength
  split
  · split <;> omega
  all_goals omega

/-- The first day of a month from its year counted from March and its place after March. -/
theorem monthStart_of_parts {marchYear shifted : Int} (nonneg : 0 ≤ shifted) (le : shifted ≤ 11) :
    monthStart (12 * marchYear + shifted + 2) =
      marchYearStart marchYear + monthOffset shifted - 719468 := by
  unfold monthStart
  rw [show (12 * marchYear + shifted + 2 - 2) / 12 = marchYear by omega,
    show (12 * marchYear + shifted + 2 - 2) % 12 = shifted by omega]

/-- Each month starts the length of the month before it after that month's start. -/
theorem monthStart_succ (index : Int) :
    monthStart (index + 1) =
      monthStart index + monthLength (index / 12) ((index % 12).toNat + 1) := by
  have cases : index % 12 = 0 ∨ index % 12 = 1 ∨ index % 12 = 2 ∨ index % 12 = 3 ∨
      index % 12 = 4 ∨ index % 12 = 5 ∨ index % 12 = 6 ∨ index % 12 = 7 ∨ index % 12 = 8 ∨
      index % 12 = 9 ∨ index % 12 = 10 ∨ index % 12 = 11 := by omega
  unfold monthStart monthOffset
  rcases cases with january | february | later | later | later | later | later | later | later |
    later | later | later
  · -- January is the eleventh month of the year that started the March before
    have sameYear : (index + 1 - 2) / 12 = (index - 2) / 12 := by omega
    have next : (index + 1 - 2) % 12 = 11 := by omega
    have this : (index - 2) % 12 = 10 := by omega
    simp only [sameYear, next, this, january, monthLength, Int.reduceToNat, Nat.reduceAdd]
    omega
  · -- after February a new year from March begins
    have nextYear : (index + 1 - 2) / 12 = (index - 2) / 12 + 1 := by omega
    have next : (index + 1 - 2) % 12 = 0 := by omega
    have this : (index - 2) % 12 = 11 := by omega
    have year : index / 12 = (index - 2) / 12 + 1 := by omega
    simp only [nextYear, next, this, february, year, monthLength, marchYearStart_succ,
      Int.reduceToNat, Nat.reduceAdd]
    split <;> omega
  all_goals
    have sameYear : (index + 1 - 2) / 12 = (index - 2) / 12 := by omega
    have next : (index + 1 - 2) % 12 = (index - 2) % 12 + 1 := by omega
    have this : (index - 2) % 12 = index % 12 - 2 := by omega
    simp only [sameYear, next, this, later, monthLength, Int.reduceToNat, Nat.reduceAdd]
    omega

theorem monthStart_lt_succ (index : Int) : monthStart index < monthStart (index + 1) := by
  have := monthLength_ge (index / 12) ((index % 12).toNat + 1)
  rw [monthStart_succ]
  omega

theorem monthStart_strictMono : StrictMono monthStart :=
  strictMono_int_of_lt_succ monthStart_lt_succ

/-- The months that start at or before a day count are those up to the month that holds it. -/
theorem monthStart_le_iff {index days : Int} (lower : monthStart index ≤ days)
    (upper : days < monthStart (index + 1)) (other : Int) :
    monthStart other ≤ days ↔ other ≤ index := by
  constructor
  · intro before
    by_contra after
    have := monthStart_strictMono.monotone (show index + 1 ≤ other by omega)
    omega
  · intro le
    exact Int.le_trans (monthStart_strictMono.monotone le) lower

/-- A day count lies in at most one month. -/
theorem eq_of_monthStart_bracket {index other days : Int}
    (lower : monthStart index ≤ days) (upper : days < monthStart (index + 1))
    (otherLower : monthStart other ≤ days) (otherUpper : days < monthStart (other + 1)) :
    index = other := by
  have before := (monthStart_le_iff lower upper other).1 otherLower
  have after := (monthStart_le_iff otherLower otherUpper index).1 lower
  omega

/-! ### The year within an era -/

/-- Day `dayOfEra` of an era with the leap days taken out, so that every year has 365 days:
one day less per four-year cycle, one more per century, one less for the era's last day. -/
def commonDayOfEra (dayOfEra : Int) : Int :=
  dayOfEra - dayOfEra / 1460 + dayOfEra / 36524 - dayOfEra / 146096

/-- The year within its era of day `dayOfEra` of the era, as `Date.ofDays` computes it. -/
def yearOfEra (dayOfEra : Int) : Int := commonDayOfEra dayOfEra / 365

theorem commonDayOfEra_le_succ {day : Int} (nonneg : 0 ≤ day) (lt : day < 146096) :
    commonDayOfEra day ≤ commonDayOfEra (day + 1) := by
  unfold commonDayOfEra
  omega

theorem yearOfEra_mono {day later : Int} (nonneg : 0 ≤ day) (le : day ≤ later)
    (bound : later ≤ 146096) : yearOfEra day ≤ yearOfEra later := by
  -- the count without leap days never goes back from one day to the next
  have common : commonDayOfEra day ≤ commonDayOfEra later := by
    induction later, le using Int.leInduction with
    | base => exact Int.le_refl _
    | succ later _ inductionHypothesis =>
      exact Int.le_trans (inductionHypothesis (by omega))
        (commonDayOfEra_le_succ (by omega) (by omega))
  exact Int.ediv_le_ediv (by decide) common

theorem ediv_365_of_split {count base : Int} (rest : Int) (split : count = rest + base * 365)
    (nonneg : 0 ≤ rest) (lt : rest < 365) : count / 365 = base := by
  rw [split, Int.add_mul_ediv_right _ _ (by decide), Int.ediv_eq_zero_of_lt nonneg lt,
    Int.zero_add]

/-- Every day but a leap day lands in its year. -/
theorem yearOfEra_cycle {century cycle year day : Int} (centuryRange : 0 ≤ century ∧ century ≤ 3)
    (cycleRange : 0 ≤ cycle ∧ cycle ≤ 24) (yearRange : 0 ≤ year ∧ year ≤ 3)
    (dayRange : 0 ≤ day ∧ day ≤ 364) :
    yearOfEra (36524 * century + 1461 * cycle + 365 * year + day) =
      100 * century + 4 * cycle + year := by
  have cycles : (36524 * century + 1461 * cycle + 365 * year + day) / 1460 =
      (24 * century + cycle + 365 * year + day) / 1460 + (25 * century + cycle) := by
    rw [show 36524 * century + 1461 * cycle + 365 * year + day =
      (24 * century + cycle + 365 * year + day) + (25 * century + cycle) * 1460 by omega]
    exact Int.add_mul_ediv_right _ _ (by decide)
  have centuries : (36524 * century + 1461 * cycle + 365 * year + day) / 36524 = century := by
    rw [show 36524 * century + 1461 * cycle + 365 * year + day =
      (1461 * cycle + 365 * year + day) + century * 36524 by omega,
      Int.add_mul_ediv_right _ _ (by decide), Int.ediv_eq_zero_of_lt (by omega) (by omega)]
    omega
  have era : (36524 * century + 1461 * cycle + 365 * year + day) / 146096 = 0 :=
    Int.ediv_eq_zero_of_lt (by omega) (by omega)
  -- the day taken out for the cycle can only be one the day has already passed
  have takenOut : 0 ≤ (24 * century + cycle + 365 * year + day) / 1460 ∧
      (24 * century + cycle + 365 * year + day) / 1460 ≤ 1 ∧
      ((24 * century + cycle + 365 * year + day) / 1460 = 1 → 269 ≤ day) := by omega
  unfold yearOfEra commonDayOfEra
  rw [cycles, centuries, era]
  exact ediv_365_of_split (day - (24 * century + cycle + 365 * year + day) / 1460)
    (by omega) (by omega) (by omega)

/-- A leap day at the end of a four-year cycle lands in the cycle's last year. -/
theorem yearOfEra_leapDay {century cycle : Int} (centuryRange : 0 ≤ century ∧ century ≤ 3)
    (cycleRange : 0 ≤ cycle ∧ cycle ≤ 23) :
    yearOfEra (36524 * century + 1461 * cycle + 1460) = 100 * century + 4 * cycle + 3 := by
  have cycles : (36524 * century + 1461 * cycle + 1460) / 1460 = 25 * century + cycle + 1 := by
    rw [show 36524 * century + 1461 * cycle + 1460 =
      (24 * century + cycle) + (25 * century + cycle + 1) * 1460 by omega,
      Int.add_mul_ediv_right _ _ (by decide), Int.ediv_eq_zero_of_lt (by omega) (by omega)]
    omega
  have centuries : (36524 * century + 1461 * cycle + 1460) / 36524 = century := by
    rw [show 36524 * century + 1461 * cycle + 1460 = (1461 * cycle + 1460) + century * 36524
      by omega, Int.add_mul_ediv_right _ _ (by decide), Int.ediv_eq_zero_of_lt (by omega) (by omega)]
    omega
  have era : (36524 * century + 1461 * cycle + 1460) / 146096 = 0 :=
    Int.ediv_eq_zero_of_lt (by omega) (by omega)
  unfold yearOfEra commonDayOfEra
  rw [cycles, centuries, era]
  exact ediv_365_of_split 364 (by omega) (by omega) (by omega)

/-- Every day of a year of an era lands in that year. -/
theorem yearOfEra_marchYearStart_add (year day : Int) (nonneg : 0 ≤ year) (lt : year < 400)
    (dayNonneg : 0 ≤ day) (dayLt : day < marchYearStart (year + 1) - marchYearStart year) :
    yearOfEra (marchYearStart year + day) = year := by
  rw [marchYearStart_parts nonneg lt]
  have length := marchYearStart_succ year
  by_cases common : day ≤ 364
  · rw [yearOfEra_cycle (by omega) (by omega) (by omega) (by omega)]
    omega
  · -- only the leap day closing a year whose February has one is left
    split at length
    · rename_i leap
      rw [isLeapYear_iff] at leap
      by_cases last : year = 399
      · subst last
        obtain rfl : day = 365 := by omega
        decide
      · rw [show 36524 * (year / 100) + 1461 * (year % 100 / 4) + 365 * (year % 4) + day =
          36524 * (year / 100) + 1461 * (year % 100 / 4) + 1460 by omega,
          yearOfEra_leapDay (by omega) (by omega)]
        omega
    · omega

/-- The year within an era of each of its days: the day lies between the first day of that year
and the first day of the next. -/
theorem yearOfEra_bracket {dayOfEra : Int} (nonneg : 0 ≤ dayOfEra) (bound : dayOfEra ≤ 146096) :
    0 ≤ yearOfEra dayOfEra ∧ yearOfEra dayOfEra ≤ 399 ∧
      marchYearStart (yearOfEra dayOfEra) ≤ dayOfEra ∧
      dayOfEra < marchYearStart (yearOfEra dayOfEra + 1) := by
  have range : 0 ≤ yearOfEra dayOfEra ∧ yearOfEra dayOfEra ≤ 399 := by
    unfold yearOfEra commonDayOfEra
    omega
  -- `yearOfEra` is monotone and exact on the first and last day of each year, so it can
  -- neither run ahead of the day nor fall behind it
  refine ⟨range.1, range.2, ?_, ?_⟩
  · by_contra before
    have positive : 0 < yearOfEra dayOfEra := by
      by_contra zero
      rw [show yearOfEra dayOfEra = 0 by omega] at before
      exact before (by unfold marchYearStart; omega)
    have previous := marchYearStart_succ (yearOfEra dayOfEra - 1)
    rw [Int.sub_add_cancel] at previous
    have lastOfPrevious := yearOfEra_marchYearStart_add (yearOfEra dayOfEra - 1)
      (marchYearStart (yearOfEra dayOfEra) - marchYearStart (yearOfEra dayOfEra - 1) - 1)
      (by omega) (by omega) (by split at previous <;> omega) (by rw [Int.sub_add_cancel]; omega)
    have mono := yearOfEra_mono nonneg
      (show dayOfEra ≤ marchYearStart (yearOfEra dayOfEra - 1) +
        (marchYearStart (yearOfEra dayOfEra) - marchYearStart (yearOfEra dayOfEra - 1) - 1) by
          omega)
      (by unfold marchYearStart at *; omega)
    omega
  · by_contra after
    have notLast : yearOfEra dayOfEra + 1 < 400 := by
      by_contra last
      rw [show yearOfEra dayOfEra + 1 = 400 by omega] at after
      exact after (by unfold marchYearStart; omega)
    have next := marchYearStart_succ (yearOfEra dayOfEra + 1)
    have firstOfNext := yearOfEra_marchYearStart_add (yearOfEra dayOfEra + 1) 0
      (by omega) notLast (Int.le_refl 0) (by split at next <;> omega)
    have mono := yearOfEra_mono (show 0 ≤ marchYearStart (yearOfEra dayOfEra + 1) + 0 by
      unfold marchYearStart; omega) (by omega) bound
    omega

/-! ### The date of a day count -/

theorem monthOffset_bracket {dayOfYear : Int} (nonneg : 0 ≤ dayOfYear) (bound : dayOfYear ≤ 365) :
    0 ≤ (5 * dayOfYear + 2) / 153 ∧ (5 * dayOfYear + 2) / 153 ≤ 11 ∧
      monthOffset ((5 * dayOfYear + 2) / 153) ≤ dayOfYear ∧
      ((5 * dayOfYear + 2) / 153 ≤ 10 →
        dayOfYear < monthOffset ((5 * dayOfYear + 2) / 153 + 1)) := by
  unfold monthOffset
  omega

/-- The date of a day count is the month that holds it, with the day counted from that month's
first day. -/
theorem Date.ofDays_bracket (days : Int) :
    monthStart (Date.ofDays days).monthIndex ≤ days ∧
      days < monthStart ((Date.ofDays days).monthIndex + 1) ∧
      ((Date.ofDays days).day : Int) = days - monthStart (Date.ofDays days).monthIndex + 1 ∧
      1 ≤ (Date.ofDays days).month ∧ (Date.ofDays days).month ≤ 12 := by
  simp only [Date.ofDays, Date.monthIndex]
  generalize eraEq : (days + 719468) / 146097 = era
  generalize dayOfEraEq : days + 719468 - era * 146097 = dayOfEra
  have dayOfEraRange : 0 ≤ dayOfEra ∧ dayOfEra ≤ 146096 := by omega
  have year := yearOfEra_bracket dayOfEraRange.1 dayOfEraRange.2
  generalize yearEq : (dayOfEra - dayOfEra / 1460 + dayOfEra / 36524 - dayOfEra / 146096) / 365 = yoe
  rw [show (dayOfEra - dayOfEra / 1460 + dayOfEra / 36524 - dayOfEra / 146096) / 365 =
    yearOfEra dayOfEra from rfl] at yearEq
  rw [yearEq] at year
  rw [← marchYearStart_of_lt year.1 (by omega)]
  generalize dayOfYearEq : dayOfEra - marchYearStart yoe = dayOfYear
  have length := marchYearStart_succ yoe
  have dayOfYearRange : 0 ≤ dayOfYear ∧ dayOfYear ≤ 365 := by split at length <;> omega
  have month := monthOffset_bracket dayOfYearRange.1 dayOfYearRange.2
  rw [show (153 * ((5 * dayOfYear + 2) / 153) + 2) / 5 = monthOffset ((5 * dayOfYear + 2) / 153)
    from rfl]
  generalize shiftedEq : (5 * dayOfYear + 2) / 153 = shifted at month
  -- the starts of this month and the next, from the year and the month counted from March
  have start : monthStart (12 * (era * 400 + yoe) + shifted + 2) = _ :=
    monthStart_of_parts month.1 month.2.1
  have next : shifted ≤ 10 → monthStart (12 * (era * 400 + yoe) + (shifted + 1) + 2) =
      marchYearStart (era * 400 + yoe) + monthOffset (shifted + 1) - 719468 :=
    fun le => monthStart_of_parts (by omega) (by omega)
  have wrap : monthStart (12 * (era * 400 + yoe + 1) + 0 + 2) =
      marchYearStart (era * 400 + yoe + 1) + monthOffset 0 - 719468 :=
    monthStart_of_parts (Int.le_refl 0) (by decide)
  rw [marchYearStart_era] at start next
  rw [show era * 400 + yoe + 1 = era * 400 + (yoe + 1) by omega, marchYearStart_era] at wrap
  have offsetZero : monthOffset 0 = 0 := by decide
  have atIndex : ∀ index : Int, index = 12 * (era * 400 + yoe) + shifted + 2 →
      monthStart index ≤ days ∧ days < monthStart (index + 1) ∧
        dayOfYear - monthOffset shifted + 1 = days - monthStart index + 1 := by
    rintro index rfl
    rw [start]
    by_cases february : shifted = 11
    · rw [show 12 * (era * 400 + yoe) + shifted + 2 + 1 = 12 * (era * 400 + (yoe + 1)) + 0 + 2
        by omega, wrap]
      split at length <;> omega
    · rw [show 12 * (era * 400 + yoe) + shifted + 2 + 1 = 12 * (era * 400 + yoe) + (shifted + 1) + 2
        by omega, next (by omega)]
      omega
  -- January and February belong to the calendar year after the year from March
  by_cases spring : shifted < 10
  · simp only [spring, if_true, show ¬ shifted + 3 ≤ 2 by omega, if_false]
    exact ⟨(atIndex _ (by omega)).1, (atIndex _ (by omega)).2.1,
      (Int.toNat_of_nonneg (by omega)).trans (atIndex _ (by omega)).2.2, by omega, by omega⟩
  · simp only [spring, if_false, show shifted - 9 ≤ 2 by omega, if_true]
    exact ⟨(atIndex _ (by omega)).1, (atIndex _ (by omega)).2.1,
      (Int.toNat_of_nonneg (by omega)).trans (atIndex _ (by omega)).2.2, by omega, by omega⟩

/-- `Date.toDays` of a date in one of the twelve months counts from the first of its month. -/
theorem Date.toDays_eq {date : Date} (pos : 1 ≤ date.month) (le : date.month ≤ 12) :
    date.toDays = monthStart date.monthIndex + date.day - 1 := by
  by_cases winter : date.month ≤ 2
  · rw [show date.monthIndex = 12 * (date.year - 1) + (date.month + 9) + 2 by
        unfold monthIndex; omega,
      monthStart_of_parts (by omega) (by omega), marchYearStart_by_era]
    simp only [Date.toDays, winter, if_true, show ¬ date.month > 2 by omega, if_false, monthOffset]
    omega
  · rw [show date.monthIndex = 12 * date.year + (date.month - 3) + 2 by unfold monthIndex; omega,
      monthStart_of_parts (by omega) (by omega), marchYearStart_by_era]
    simp only [Date.toDays, winter, if_false, show date.month > 2 by omega, if_true, monthOffset]
    omega

theorem Date.monthIndex_parts {date : Date} (pos : 1 ≤ date.month) (le : date.month ≤ 12) :
    date.monthIndex / 12 = date.year ∧ (date.monthIndex % 12).toNat + 1 = date.month := by
  unfold Date.monthIndex
  omega

/-- A date whose month is one of the twelve is valid when its day count lies before the start of
the next month. -/
theorem Date.valid_iff {date : Date} (pos : 1 ≤ date.month) (le : date.month ≤ 12) :
    date.Valid ↔ 1 ≤ date.day ∧ date.toDays < monthStart (date.monthIndex + 1) := by
  have parts := Date.monthIndex_parts pos le
  rw [Date.toDays_eq pos le, monthStart_succ, parts.1, parts.2]
  constructor
  · intro valid
    have := valid.day_le
    exact ⟨valid.day_pos, by omega⟩
  · rintro ⟨dayPos, before⟩
    exact ⟨pos, le, dayPos, by omega⟩

theorem Date.valid_ofDays (days : Int) : (Date.ofDays days).Valid := by
  obtain ⟨_, upper, day, pos, le⟩ := Date.ofDays_bracket days
  rw [Date.valid_iff pos le, Date.toDays_eq pos le]
  exact ⟨by omega, by omega⟩

/-- Reading a day count as a date and counting it back gives the day count. -/
theorem Date.toDays_ofDays (days : Int) : (Date.ofDays days).toDays = days := by
  obtain ⟨_, _, day, pos, le⟩ := Date.ofDays_bracket days
  rw [Date.toDays_eq pos le]
  omega

/-- A valid date lies in the month of its month index. -/
theorem Date.toDays_bracket {date : Date} (valid : date.Valid) :
    monthStart date.monthIndex ≤ date.toDays ∧ date.toDays < monthStart (date.monthIndex + 1) := by
  have next := ((Date.valid_iff valid.month_pos valid.month_le).1 valid).2
  have := valid.day_pos
  rw [Date.toDays_eq valid.month_pos valid.month_le] at next ⊢
  exact ⟨by omega, next⟩

/-- Two dates of the twelve months with one month index and one day are the same date. -/
theorem Date.ext_of_monthIndex {date other : Date} (pos : 1 ≤ date.month) (le : date.month ≤ 12)
    (otherPos : 1 ≤ other.month) (otherLe : other.month ≤ 12)
    (index : date.monthIndex = other.monthIndex) (day : date.day = other.day) : date = other := by
  have parts := Date.monthIndex_parts pos le
  have otherParts := Date.monthIndex_parts otherPos otherLe
  rw [index] at parts
  cases date
  cases other
  simp only [Date.mk.injEq]
  exact ⟨parts.1.symm.trans otherParts.1, parts.2.symm.trans otherParts.2, day⟩

/-- Counting a valid date in days and reading the count back gives the date. -/
theorem Date.ofDays_toDays {date : Date} (valid : date.Valid) : Date.ofDays date.toDays = date := by
  obtain ⟨lower, upper, day, pos, le⟩ := Date.ofDays_bracket date.toDays
  have bracket := Date.toDays_bracket valid
  have index := eq_of_monthStart_bracket lower upper bracket.1 bracket.2
  have days := Date.toDays_eq valid.month_pos valid.month_le
  refine Date.ext_of_monthIndex pos le valid.month_pos valid.month_le index ?_
  rw [index] at day
  omega

/-! ### First days of months -/

/-- The month index of a date written from a month index is that index, whatever its day. -/
theorem monthIndex_mk (index : Int) (day : Nat) :
    (⟨index / 12, (index % 12).toNat + 1, day⟩ : Date).monthIndex = index := by
  simp only [Date.monthIndex]
  omega

theorem monthIndex_firstOfIndex (index : Int) : (firstOfIndex index).monthIndex = index :=
  monthIndex_mk index 1

theorem valid_firstOfIndex (index : Int) : (firstOfIndex index).Valid where
  month_pos := by simp only [firstOfIndex]; omega
  month_le := by simp only [firstOfIndex]; omega
  day_pos := Nat.le_refl 1
  day_le := Nat.le_trans (by decide : 1 ≤ 28) (monthLength_ge _ _)

theorem toDays_firstOfIndex (index : Int) : (firstOfIndex index).toDays = monthStart index := by
  have valid := valid_firstOfIndex index
  rw [Date.toDays_eq valid.month_pos valid.month_le, monthIndex_firstOfIndex]
  simp only [firstOfIndex]
  omega

/-- The first day of a month is read back as the first of that month. -/
theorem ofDays_monthStart (index : Int) : Date.ofDays (monthStart index) = firstOfIndex index := by
  rw [← toDays_firstOfIndex]
  exact Date.ofDays_toDays (valid_firstOfIndex index)

theorem Date.firstOfMonth_eq {date : Date} (pos : 1 ≤ date.month) (le : date.month ≤ 12) :
    date.firstOfMonth = firstOfIndex date.monthIndex := by
  have parts := Date.monthIndex_parts pos le
  unfold Date.firstOfMonth firstOfIndex
  rw [parts.1, parts.2]

/-- Moving the first of a month by whole months gives the first of the target month. -/
theorem addMonths_firstOfIndex (index months : Int) :
    (firstOfIndex index).addMonths months = firstOfIndex (index + months) := by
  have shifted : (firstOfIndex index).year * 12 + (((firstOfIndex index).month : Int) - 1) +
      months = index + months := by
    have := monthIndex_firstOfIndex index
    unfold Date.monthIndex at this
    omega
  have length := monthLength_ge ((index + months) / 12) (((index + months) % 12).toNat + 1)
  simp only [Date.addMonths, shifted]
  simp only [firstOfIndex, Date.mk.injEq, true_and]
  omega

/-- A date moved by whole months lands in the month `months` away, on the same day, or on that
month's last day when it is shorter. -/
theorem Date.addMonths_eq (date : Date) (months : Int) :
    date.addMonths months = ⟨(date.monthIndex + months) / 12,
      ((date.monthIndex + months) % 12).toNat + 1,
      min date.day (monthLength ((date.monthIndex + months) / 12)
        (((date.monthIndex + months) % 12).toNat + 1))⟩ := by
  unfold Date.addMonths Date.monthIndex
  rfl

/-- The day count of a date moved by whole months. -/
theorem Date.toDays_addMonths (date : Date) (months : Int) :
    (date.addMonths months).toDays = monthStart (date.monthIndex + months) +
      min date.day (monthLength ((date.monthIndex + months) / 12)
        (((date.monthIndex + months) % 12).toNat + 1)) - 1 := by
  rw [Date.addMonths_eq, Date.toDays_eq (Nat.le_add_left 1 _) (by show _ + 1 ≤ 12; omega),
    monthIndex_mk]

/-- A valid date moved back by whole months is no later. -/
theorem Date.toDays_addMonths_neg_le {date : Date} (valid : date.Valid) (months : Nat) :
    (date.addMonths (-(months : Int))).toDays ≤ date.toDays := by
  have bracket := Date.toDays_bracket valid
  have length := monthStart_succ (date.monthIndex + -(months : Int))
  have days := Date.toDays_eq valid.month_pos valid.month_le
  rw [Date.toDays_addMonths]
  by_cases none : months = 0
  · subst none
    simp only [Int.natCast_zero, Int.neg_zero, Int.add_zero]
    omega
  · -- the month `months` before ends before the date's month starts
    have mono := monthStart_strictMono.monotone
      (show date.monthIndex + -(months : Int) + 1 ≤ date.monthIndex by omega)
    omega

/-- 1970-01-05 was a Monday, and weekdays repeat every seven days. -/
theorem Weekday.ofDays_eq_monday_iff (days : Int) :
    Weekday.ofDays days = .monday ↔ days % 7 = 4 := by
  unfold Weekday.ofDays
  generalize place : ((days + 3) % 7).toNat = weekday
  have range : weekday = 0 ∨ weekday = 1 ∨ weekday = 2 ∨ weekday = 3 ∨ weekday = 4 ∨
      weekday = 5 ∨ weekday = 6 := by omega
  rcases range with rfl | rfl | rfl | rfl | rfl | rfl | rfl <;> simp <;> omega

end Cadence.Civil
