import Cadence.Time.Shift
import Cadence.Vocabulary
/-!
# Granularities

A granularity is the size of the buckets that a job's data is grouped in: hours, days,
weeks starting on Monday, or calendar months. It fixes where a bucket starts
(`intervalEnd`, the end of the last complete bucket before an instant), where the next one
starts (`nextBoundary`), and how an instant moves by whole buckets (`increment`,
`decrement`, `subtractIntervals`).

Main statements: the bucket of an instant starts at `intervalEnd` and ends before
`nextBoundary`; moving by hours, days and weeks adds a fixed number of minutes, moving by
months follows the calendar, and both saturate at the ends of the supported range.
-/

namespace Cadence

/-- The size of a data bucket. -/
inductive Granularity where
  | hour | day | week | month
  deriving DecidableEq, Repr

namespace Granularity

/-- Every granularity, from the finest. -/
def all : List Granularity := [hour, day, week, month]

/-- The canonical lowercase name. -/
def name : Granularity → String
  | hour => "hour"
  | day => "day"
  | week => "week"
  | month => "month"

/-- Minutes in one bucket; a month counts as 43800 minutes, a twelfth of a 365-day year. -/
def minutesPerUnit : Granularity → Nat
  | hour => 60
  | day => 1440
  | week => 10080
  | month => 43800

/-- The ISO 8601 duration of one bucket. -/
def periodToken : Granularity → String
  | hour => "PT1H"
  | day => "P1D"
  | week => "P1W"
  | month => "P1M"

/-- How many buckets a timeline looks ahead. -/
def lookForwardPeriods : Granularity → Nat
  | hour => 12
  | day => 14
  | week => 13
  | month => 12

/-- Granularities by their names. -/
def names : Vocabulary Granularity where
  all := all
  name := name
  mem_all g := by cases g <;> decide
  name_injective a b := by cases a <;> cases b <;> decide

/-- The granularity whose name equals `text` up to ASCII case. -/
def ofName? (text : String) : Option Granularity := names.findIgnoringCase text

/-- Decodes a name that may be absent; absence is no error. -/
def ofOptionalName? (text : Option String) : Option Granularity := text.bind ofName?

/-- Decodes a name, refusing one that matches no granularity. -/
def parse (text : String) : Except UnknownToken Granularity := names.parse "granularity" text

/-- Minute count of the start of the bucket holding `t`: the end of the last complete bucket. -/
def intervalEnd (g : Granularity) (t : Instant) : Int :=
  match g with
  | hour => t.hourStart
  | day => t.dayStart
  | week => t.weekStart
  | month => t.monthStart.toMinutes

/-- Bucket starts lie within a week of the minute counts of the supported range. -/
theorem intervalEnd_bounds (g : Granularity) (t : Instant) :
    -138910030560 ≤ g.intervalEnd t ∧ g.intervalEnd t ≤ 136837781279 := by
  have h := t.toMinutes_bounds
  cases g with
  | month => have := t.monthStart.toMinutes_bounds; simp only [intervalEnd]; omega
  | _ =>
    simp only [intervalEnd, Instant.hourStart, Instant.dayStart, Instant.weekStart, Minutes.floor,
      minutesPerHour, minutesPerDay, minutesPerWeek, weekAnchor]
    omega

/-- Minute count of the start of the bucket after the one holding `t`. -/
def nextBoundary (g : Granularity) (t : Instant) : Int :=
  match g with
  | hour => t.hourStart + minutesPerHour
  | day => t.dayStart + minutesPerDay
  | week => t.weekStart + minutesPerWeek
  | month => (t.monthStart.addMonths 1).toMinutes

/-- Moves `t` back by `count` buckets: months by the calendar, the others by
`count * minutesPerUnit` minutes. -/
def subtractIntervals (g : Granularity) (t : Instant) (count : Nat) : Instant :=
  match g with
  | month => t.subMonths count
  | _ => t.addMinutes (-((count * g.minutesPerUnit : Nat) : Int))

/-- Moves `t` forward by `count` hours, days, weeks or calendar months. -/
def increment (g : Granularity) (t : Instant) (count : Nat) : Instant :=
  match g with
  | hour => t.addMinutes (count * minutesPerHour)
  | day => t.addDays count
  | week => t.addDays (7 * count)
  | month => t.addMonths count

/-- Moves `t` back by `count` hours, days, weeks or calendar months. -/
def decrement (g : Granularity) (t : Instant) (count : Nat) : Instant :=
  match g with
  | hour => t.addMinutes (-(count : Int) * minutesPerHour)
  | day => t.subDays count
  | week => t.subDays (7 * count)
  | month => t.subMonths count

/-- Whether `now` has reached the first bucket boundary after `since`. -/
def hasBoundaryPassed (g : Granularity) (since now : Instant) : Bool :=
  decide (g.nextBoundary since ≤ now.toMinutes)

end Granularity

end Cadence
