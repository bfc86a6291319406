import Cadence.Word
import Cadence.Time.Instant
/-!
# Epoch minutes and bucket starts

Schedules count time in whole minutes from the epoch. An instant's minute count is its
seconds divided by 60, rounded down; a minute count names the instant at the start of that
minute, saturated to the supported range.

Buckets of a fixed number of minutes are laid out from an anchor: the bucket that holds `m`
starts at `anchor + ⌊(m - anchor) / unit⌋ * unit`. Hours and days are anchored at the epoch,
weeks at Monday 1970-01-05, and months start at 00:00 on their first day.
-/

namespace Cadence

/-- Minutes in one hour. -/
def minutesPerHour : Int := 60

/-- Minutes in one day. -/
def minutesPerDay : Int := 1440

/-- Minutes in one week. -/
def minutesPerWeek : Int := 10080

/-- Minutes from the epoch to Monday 1970-01-05 00:00, where weeks are anchored. -/
def weekAnchor : Int := 5760

namespace Minutes

/-- The start of the `unit`-minute bucket counted from `anchor` that holds `minutes`:
the anchor plus a whole number of units, with `minutes` less than one unit further on. -/
def floor (minutes unit anchor : Int) : Int := anchor + (minutes - anchor) / unit * unit

/-- `floor` on words, each step checked in the order subtract, divide, multiply, add; the first
step whose result is not a word names the fault. -/
def floorChecked (minutes unit anchor : Word) : Except Fault Word := do
  let offset ← Word.sub minutes anchor
  let count ← Word.divEuclid offset unit
  let span ← Word.mul count unit
  Word.add anchor span

end Minutes

namespace Instant

/-- Whole minutes from the epoch to the instant, rounded down. -/
def toMinutes (t : Instant) : Int := t.seconds / 60

/-- The minute count of an instant lies between those of the earliest and the latest instant. -/
theorem toMinutes_bounds (t : Instant) :
    -138910020480 ≤ t.toMinutes ∧ t.toMinutes ≤ 136837781279 := by
  have h1 := t.earliest_le
  have h2 := t.le_latest
  unfold earliestSecond at h1
  unfold latestSecond at h2
  unfold toMinutes
  omega

/-- The minute count of an instant, a word. -/
def minutesWord (t : Instant) : Word :=
  ⟨t.toMinutes, by
    have := t.toMinutes_bounds
    unfold Word.IsWord Word.least Word.greatest
    omega⟩

/-- The start of minute `minutes` from the epoch, saturated to the supported range. -/
def ofMinutes (minutes : Int) : Instant := clamp (minutes * 60) 0 zero_lt_nanosPerSecond

/-- Minute count of the start of the instant's hour. -/
def hourStart (t : Instant) : Int := Minutes.floor t.toMinutes minutesPerHour 0

/-- Minute count of midnight of the instant's day. -/
def dayStart (t : Instant) : Int := Minutes.floor t.toMinutes minutesPerDay 0

/-- Minute count of Monday 00:00 of the instant's week. -/
def weekStart (t : Instant) : Int := Minutes.floor t.toMinutes minutesPerWeek weekAnchor

/-- 00:00:00 on the first day of the instant's month. -/
def monthStart (t : Instant) : Instant :=
  clamp (t.date.firstOfMonth.toDays * 86400) 0 zero_lt_nanosPerSecond

end Instant

example : (Instant.ofMinutes (-1)).seconds = -60 ∧ Instant.ofMinutes (10 ^ 12) = Instant.latest := by
  decide

end Cadence
