import Cadence.Schedule.Times
import Cadence.Schedule.Error
import Cadence.Config.Lookback
/-!
# Analysis windows and backfills

A run analyses the buckets of a window that ends where the run's query time lies and
reaches back by the baseline's bucket count times the job's granularity range. A backfill
replays the job over a past span: the span is floored to whole buckets, shifted by the
range, and must hold at least one bucket.
-/

namespace Cadence

namespace Job

/-- The granularity range, refused when zero. -/
def checkedRange (job : Job) : Except ScheduleError Count :=
  if job.granularityRange.val = 0 then .error .invalidGranularityRange
  else .ok job.granularityRange

/-- Points in the baseline: the job's own count, else the lookback's for its granularity. -/
def baselineCount (job : Job) (lookback : Lookback) : Except ConfigError Count :=
  match job.timeseriesRange with
  | some n => .ok n
  | none => job.granularity.lookbackCount lookback

end Job

/-- The span of buckets a run analyses. -/
structure Window where
  /-- The size of the buckets. -/
  granularity : Granularity
  /-- The first instant of the window. -/
  startsAt : Instant
  /-- The instant the window ends at. -/
  endsAt : Instant
  /-- The number of buckets. -/
  intervals : Count
  deriving DecidableEq

namespace Window

/-- The window start in epoch minutes. -/
def startMinutes (w : Window) : Int := w.startsAt.toMinutes

/-- The window end in epoch minutes. -/
def endMinutes (w : Window) : Int := w.endsAt.toMinutes

/-- The window of `intervals` buckets (else the lookback count) that ends at `endsAt`. -/
def endingAt (g : Granularity) (endsAt : Instant) (intervals : Option Count)
    (lookback : Lookback) : Except ConfigError Window := do
  let count ← match intervals with
    | some n => pure n
    | none => g.lookbackCount lookback
  return { granularity := g, startsAt := g.subtractIntervals endsAt count.val, endsAt,
           intervals := count }

/-- The window the job's run at `now` analyses: it ends at the start of the job's bucket
that holds `now` less the lag, and spans the baseline count times the range. -/
def forJob (job : Job) (now : Instant) (lookback : Lookback) : Except ScheduleError Window := do
  let range ← job.checkedRange
  let g := job.granularity
  let endsAt := Instant.ofMinutes (g.intervalEnd (job.lagged now))
  let perPoint ← (job.baselineCount lookback).mapError .config
  (endingAt g endsAt (some (perPoint.scale range)) lookback).mapError .config

end Window

/-- A plan to replay a job over a past span. -/
structure Backfill where
  /-- The size of the buckets. -/
  granularity : Granularity
  /-- The first instant whose data the replay reads. -/
  queryStart : Instant
  /-- The first replayed bucket, in epoch minutes. -/
  windowStart : Int
  /-- The end of the replayed span, in epoch minutes. -/
  windowEnd : Int
  /-- The baseline count per point. -/
  intervals : Count
  deriving DecidableEq

namespace Backfill

/-- The replayed span in minutes. -/
def span (b : Backfill) : Int := b.windowEnd - b.windowStart

/-- Plans the replay of `job` from `start` to `endAt` (else `now` less the lag). Both ends are
floored to the job's buckets and shifted by `range - 1` bucket lengths; a span shorter than
the bucket at its start is refused before the baseline count is looked up. -/
def plan (job : Job) (start : Instant) (endAt : Option Instant) (now : Instant)
    (lookback : Lookback) : Except ScheduleError Backfill := do
  let range ← job.checkedRange
  let g := job.granularity
  let finish := endAt.getD (now.addMinutes (-(job.hoursOfLag.val : Int) * minutesPerHour))
  let shift : Int := g.minutesPerUnit * (range.val - 1 : Nat)
  let windowEnd := g.intervalEnd finish + shift
  let windowStart := g.intervalEnd start + shift
  let span := windowEnd - windowStart
  let minimum := (g.increment (Instant.ofMinutes windowStart) 1).toMinutes - windowStart
  if span < minimum then
    throw (.backfillTooShort g span minimum)
  let intervals ← (job.baselineCount lookback).mapError .config
  let queryStart := g.subtractIntervals (Instant.ofMinutes windowStart) (intervals.scale range).val
  return { granularity := g, queryStart, windowStart, windowEnd, intervals }

end Backfill

end Cadence
