import Cadence.Time.Minutes
/-!
# Moving instants by minutes, days and months

Minutes and days are fixed numbers of seconds; months follow the calendar, keeping the time
of day and the day of the month unless the target month is shorter. Every move saturates at
the ends of the supported range, so a move forward never gives an instant earlier than its
start and a move back never a later one.

An instant in a leap second leaves it when moved by minutes (`Instant.addSeconds`) and keeps
it when moved by days or months, which change the date alone.
-/

namespace Cadence.Instant

/-- Moves by `minutes` minutes, forward when positive. -/
def addMinutes (t : Instant) (minutes : Int) : Instant := t.addSeconds (minutes * 60)

/-- Moving by whole days keeps the second of the minute. -/
theorem add_days_emod (seconds days : Int) : (seconds + days * 86400) % 60 = seconds % 60 := by
  omega

/-- Moves forward by `days` days of 86400 seconds, the time of day kept; no days keep the
instant as it is. -/
def addDays (t : Instant) (days : Nat) : Instant :=
  if days = 0 then t else t.atLater (t.seconds + (days : Int) * 86400) (add_days_emod _ _)

/-- Moves back by `days` days of 86400 seconds, the time of day kept. -/
def subDays (t : Instant) (days : Nat) : Instant :=
  t.atEarlier (t.seconds + (-(days : Int)) * 86400) (add_days_emod _ _)

/-- The seconds of the instant's time of day on the date `months` calendar months later (earlier
when negative), by `Civil.Date.addMonths`. -/
def monthShiftedSeconds (t : Instant) (months : Int) : Int :=
  (t.date.addMonths months).toDays * 86400 + t.secondOfDay

theorem monthShiftedSeconds_emod (t : Instant) (months : Int) :
    t.monthShiftedSeconds months % 60 = t.seconds % 60 := by
  unfold monthShiftedSeconds secondOfDay
  omega

/-- Moves forward by `months` calendar months, the time of day and the nanoseconds kept. -/
def addMonths (t : Instant) (months : Nat) : Instant :=
  t.atLater (t.monthShiftedSeconds months) (t.monthShiftedSeconds_emod _)

/-- Moves back by `months` calendar months, the time of day and the nanoseconds kept. -/
def subMonths (t : Instant) (months : Nat) : Instant :=
  t.atEarlier (t.monthShiftedSeconds (-(months : Int))) (t.monthShiftedSeconds_emod _)

/-- The seconds and nanoseconds of a move of the instant with these parts. -/
def movedParts (seconds : Int) (nanos : Nat) (move : Instant → Instant) : Option (Int × Nat) :=
  (ofParts? seconds nanos).map fun t => ((move t).seconds, (move t).nanos)

example : movedParts 1719791999 1000000000 (·.addMinutes 1) = some (1719792059, 0) := by
  decide +kernel
example : movedParts 1719791999 1000000000 (·.addMinutes (-1440)) = some (1719705600, 0) := by
  decide +kernel
example : movedParts 1719791999 1000000000 (·.addMinutes 0) = some (1719791999, 1000000000) := by
  decide +kernel
example : movedParts 1709251199 1250000000 (·.addDays 365) = some (1740787199, 1250000000) := by
  decide +kernel
example : movedParts 1709251199 1250000000 (·.addMonths 1) = some (1711756799, 1250000000) := by
  decide +kernel
example : movedParts 8210266876799 1999999999 (·.addMonths 0) = some (8210266876799, 999999999) := by
  decide +kernel
example : movedParts 8210266876799 1999999999 (·.addDays 0) = some (8210266876799, 1999999999) := by
  decide +kernel

end Cadence.Instant
