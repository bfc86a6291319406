import Cadence.Time.Civil
import Cadence.Word
/-!
# Instants of the supported calendar

An instant is a whole number of seconds from 1970-01-01 00:00:00 and a count of nanoseconds
into that second. The last second of a minute may run on through a leap second, so its count
of nanoseconds goes up to two seconds (`Instant.NanosValid`). The calendar supports the years
`Civil.firstYear` through `Civil.lastYear`, so the seconds of an instant lie between 00:00:00
on the first day of the first year and 23:59:59 on the last day of the last year. The range is
part of the type.

Every movement of an instant saturates: a result before the earliest instant is the earliest
instant, one after the latest is the latest (`Instant.clamp`).
-/

namespace Cadence

/-- Seconds from the epoch to 00:00:00 on 1 January of `Civil.firstYear`. -/
def earliestSecond : Int := -8334601228800

/-- Seconds from the epoch to 23:59:59 on 31 December of `Civil.lastYear`. -/
def latestSecond : Int := 8210266876799

/-- Nanoseconds in one second. -/
def nanosPerSecond : Nat := 1000000000

theorem zero_lt_nanosPerSecond : 0 < nanosPerSecond := by decide

/-- Nanoseconds in a second that runs on through a leap second. -/
def nanosPerLeapSecond : Nat := 2000000000

/-- Whether `nanos` nanoseconds lie within the second `seconds`: fewer than a second, or, in
the last second of a minute, fewer than two, the second one a leap second. -/
def Instant.NanosValid (seconds : Int) (nanos : Nat) : Prop :=
  nanos < nanosPerSecond ∨ (nanos < nanosPerLeapSecond ∧ seconds % 60 = 59)

instance (seconds : Int) (nanos : Nat) : Decidable (Instant.NanosValid seconds nanos) :=
  inferInstanceAs (Decidable (_ ∨ _))

/-- A point in time within the supported calendar. -/
structure Instant where
  /-- Whole seconds from 1970-01-01 00:00:00, negative before it. -/
  seconds : Int
  /-- Nanoseconds into the second, past one second in a leap second. -/
  nanos : Nat
  nanos_valid : Instant.NanosValid seconds nanos
  earliest_le : earliestSecond ≤ seconds
  le_latest : seconds ≤ latestSecond

namespace Instant

/-- Nanoseconds of less than a second are valid in every second. -/
theorem nanosValid_of_lt {seconds : Int} {nanos : Nat} (h : nanos < nanosPerSecond) :
    NanosValid seconds nanos := Or.inl h

/-- Validity of nanoseconds depends on the seconds only through the second of the minute. -/
theorem nanosValid_of_emod {seconds other : Int} {nanos : Nat} (h : other % 60 = seconds % 60)
    (valid : NanosValid seconds nanos) : NanosValid other nanos := by
  unfold NanosValid at *
  omega

instance : DecidableEq Instant := fun a b =>
  if h : a.seconds = b.seconds ∧ a.nanos = b.nanos then
    isTrue (by cases a; cases b; simp_all)
  else
    isFalse (by intro e; subst e; exact h ⟨rfl, rfl⟩)

/-- The instant with these parts, if they lie in the supported range. -/
def ofParts? (seconds : Int) (nanos : Nat) : Option Instant :=
  if h : NanosValid seconds nanos ∧ earliestSecond ≤ seconds ∧ seconds ≤ latestSecond then
    some ⟨seconds, nanos, h.1, h.2.1, h.2.2⟩
  else
    none

/-- 00:00:00 on the first day of the supported calendar. -/
def earliest : Instant :=
  ⟨earliestSecond, 0, nanosValid_of_lt zero_lt_nanosPerSecond, by decide, by decide⟩

/-- The last nanosecond before the leap seconds of the last day of the supported calendar.
Only a leap second of that day's last minute lies after it. -/
def latest : Instant := ⟨latestSecond, 999999999, nanosValid_of_lt (by decide), by decide, by decide⟩

/-- The instant `seconds` seconds and `nanos` nanoseconds after the epoch, saturated to the
supported range: the earliest instant below it, the latest above it. -/
def clamp (seconds : Int) (nanos : Nat) (nanos_lt : nanos < nanosPerSecond) : Instant :=
  if below : seconds < earliestSecond then earliest
  else if above : latestSecond < seconds then latest
  else ⟨seconds, nanos, nanosValid_of_lt nanos_lt, by omega, by omega⟩

/-- Whether the instant lies in a leap second. -/
def inLeapSecond (t : Instant) : Bool := decide (nanosPerSecond ≤ t.nanos)

/-- The nanoseconds past the start of the instant's second, a leap second counted from its own
start. -/
def subsecond (t : Instant) : Nat := t.nanos % nanosPerSecond

theorem subsecond_lt (t : Instant) : t.subsecond < nanosPerSecond :=
  Nat.mod_lt _ zero_lt_nanosPerSecond

/-- The instant moved by `delta` whole seconds, saturated; no move keeps it as it is. A moving
instant in a leap second leaves it, keeping its fraction of a second: moving forward it
counts from the second before the leap second, moving back from the second after it. -/
def addSeconds (t : Instant) (delta : Int) : Instant :=
  if delta = 0 then t
  else
    let start := if t.inLeapSecond ∧ delta < 0 then t.seconds + 1 else t.seconds
    clamp (start + delta) t.subsecond t.subsecond_lt

/-- The instant at `seconds` with the nanoseconds of `t`, the two seconds having the same place
in their minutes, saturated to the supported range. Used for moves back by days and months. -/
def atEarlier (t : Instant) (seconds : Int) (same : seconds % 60 = t.seconds % 60) : Instant :=
  if below : seconds < earliestSecond then earliest
  else if above : latestSecond < seconds then latest
  else ⟨seconds, t.nanos, nanosValid_of_emod same t.nanos_valid, by omega, by omega⟩

/-- As `atEarlier`, for moves forward: a result in the leap second after the latest instant
is the latest instant too. -/
def atLater (t : Instant) (seconds : Int) (same : seconds % 60 = t.seconds % 60) : Instant :=
  if seconds = latestSecond ∧ t.inLeapSecond then latest else t.atEarlier seconds same

/-- The seconds of an instant, a word. -/
def secondsWord (t : Instant) : Word :=
  ⟨t.seconds, by
    have h1 := t.earliest_le
    have h2 := t.le_latest
    unfold earliestSecond at h1
    unfold latestSecond at h2
    unfold Word.IsWord Word.least Word.greatest
    omega⟩

/-- Days from 1970-01-01 to the instant's date. -/
def days (t : Instant) : Int := t.seconds / 86400

/-- Seconds since midnight of the instant's date. -/
def secondOfDay (t : Instant) : Int := t.seconds % 86400

/-- The calendar date of the instant. -/
def date (t : Instant) : Civil.Date := Civil.Date.ofDays t.days

/-- The weekday of the instant's date. -/
def weekday (t : Instant) : Civil.Weekday := Civil.Weekday.ofDays t.days

/-- Instants are ordered by their seconds, then by their nanoseconds; a leap second comes after
the second it extends and before the next one. -/
instance : LE Instant := ⟨fun a b => a.seconds < b.seconds ∨ (a.seconds = b.seconds ∧ a.nanos ≤ b.nanos)⟩

instance : LT Instant := ⟨fun a b => a.seconds < b.seconds ∨ (a.seconds = b.seconds ∧ a.nanos < b.nanos)⟩

instance (a b : Instant) : Decidable (a ≤ b) := inferInstanceAs (Decidable (_ ∨ _))

instance (a b : Instant) : Decidable (a < b) := inferInstanceAs (Decidable (_ ∨ _))

end Instant

end Cadence
