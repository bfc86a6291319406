import Cadence.Proofs.Moves
import Cadence.Proofs.AnalysisWindow

/-!
# Backfill plans

A backfill replays a job over a past span. The plan floors both ends of the span to the job's
buckets and shifts both by `range - 1` bucket units, so that a point of several buckets ends on
the window's edge. Its guard refuses a span shorter than the bucket at the window's start, and
it measures that bucket by moving the start's instant one bucket on: the instant and the move
both saturate at the ends of the supported range.

The checks come in order: a zero granularity range, then the short span, then the baseline
count, and a plan that passes them all returns. Every quantity the plan computes is a word,
whatever the range. A returned plan spans the distance between the two floored ends and reads
from no later than its window start.

The guard measures a true bucket only while the bucket after the window start ends inside the
range; a returned plan then spans at least a whole bucket, 28 days for a month. A window start
shifted up to or past the range's end measures a bucket cut short, empty or negative, and an
empty span passes.

Main statement: `Backfill.plan_checked_span`.
-/

namespace Cadence

namespace Civil

theorem monthLength_le (year : Int) (month : Nat) : monthLength year month ≤ 31 := by
  unfold monthLength
  split
  · split <;> omega
  all_goals omega

/-- A valid date moved one month on lies at most 31 days later: the day moves by the length of
its month, or less when the next month is shorter. -/
theorem Date.toDays_addMonths_one_le {date : Date} (valid : date.Valid) :
    (date.addMonths 1).toDays ≤ date.toDays + 31 := by
  have days := Date.toDays_eq valid.month_pos valid.month_le
  have parts := Date.monthIndex_parts valid.month_pos valid.month_le
  have length := monthStart_succ date.monthIndex
  have thisLength := monthLength_le date.year date.month
  rw [parts.1, parts.2] at length
  rw [Date.toDays_addMonths]
  push_cast
  omega

end Civil

namespace Instant

theorem toMinutes_ofPartsSaturating_of_inRange {seconds : Int} {nanos : Nat}
    (valid : NanosValid seconds nanos) (inRange : PartsInRange seconds nanos) :
    (ofPartsSaturating seconds nanos).toMinutes = seconds / 60 := by
  unfold toMinutes
  rw [(ofPartsSaturating_of_inRange valid inRange).1]

/-- One month on from the start of a minute of the range that lies a month or more before the
range's end: between 28 and 31 days later, to the minute. -/
theorem toMinutes_addMonths_one_ofMinutes {start : Int} (lower : earliest.toMinutes ≤ start)
    (fits : start + 31 * 1440 ≤ latest.toMinutes) :
    start + 28 * 1440 ≤ ((ofMinutes start).addMonths 1).toMinutes ∧
      ((ofMinutes start).addMonths 1).toMinutes ≤ start + 31 * 1440 := by
  have parts := ofMinutes_of_mem lower (by omega)
  have valid := Civil.Date.valid_ofDays (ofMinutes start).days
  have later := Civil.Date.toDays_add_28_le_addMonths_one valid
  have sooner := Civil.Date.toDays_addMonths_one_le valid
  rw [Civil.Date.toDays_ofDays] at later sooner
  change (ofMinutes start).days + 28 ≤ ((ofMinutes start).date.addMonths 1).toDays at later
  change ((ofMinutes start).date.addMonths 1).toDays ≤ (ofMinutes start).days + 31 at sooner
  have earliestCount := earliest_toMinutes
  have latestCount := latest_toMinutes
  unfold days at later sooner
  rw [parts.1] at later sooner
  -- the shifted seconds keep the time of day and move the date by 28 to 31 days
  have shifted : start * 60 + 28 * 86400 ≤ (ofMinutes start).monthShiftedSeconds 1 ∧
      (ofMinutes start).monthShiftedSeconds 1 ≤ start * 60 + 31 * 86400 := by
    unfold monthShiftedSeconds secondOfDay
    rw [parts.1]
    omega
  rw [addMonths_eq_ofPartsSaturating, parts.2, Nat.cast_one,
    toMinutes_ofPartsSaturating_of_inRange (nanosValid_of_lt (by decide))
      (partsInRange_of_lt (by unfold earliestSecond; omega) (by unfold latestSecond; omega)
        (by decide))]
  omega

end Instant

namespace Granularity

/-- The shortest bucket in minutes: a month has at least 28 days. -/
def shortestBucket : Granularity → Int
  | month => 28 * minutesPerDay
  | g => g.minutesPerUnit

/-- The longest bucket in minutes: a month has at most 31 days. -/
def longestBucket : Granularity → Int
  | month => 31 * minutesPerDay
  | g => g.minutesPerUnit

/-- The length a backfill's guard takes for the bucket that starts at minute `start`: from the
instant of that minute to one bucket on, both saturated to the range. -/
def measuredBucket (g : Granularity) (start : Int) : Int :=
  (g.increment (Instant.ofMinutes start) 1).toMinutes - start

/-- One bucket on from the range's first instant is at least a shortest bucket later. -/
theorem shortestBucket_le_increment_earliest (g : Granularity) :
    Instant.earliest.toMinutes + g.shortestBucket ≤ (g.increment Instant.earliest 1).toMinutes := by
  cases g <;> decide

/-- While the bucket after `start` ends inside the range, the guard measures at least a
shortest bucket; a start before the range measures from the range's first instant, longer
still. -/
theorem shortestBucket_le_measuredBucket (g : Granularity) {start : Int}
    (fits : start + g.longestBucket ≤ Instant.latest.toMinutes) :
    g.shortestBucket ≤ g.measuredBucket start := by
  have count := Instant.toMinutes_ofMinutes start
  have := Instant.earliest_toMinutes
  have := Instant.latest_toMinutes
  unfold Minutes.saturate at count
  unfold measuredBucket
  by_cases before : start < Instant.earliest.toMinutes
  · have first := g.shortestBucket_le_increment_earliest
    rw [Instant.ofMinutes_of_lt before]
    omega
  cases g with
  | hour =>
    simp only [increment, shortestBucket, longestBucket, minutesPerUnit, minutesPerHour] at fits ⊢
    rw [Instant.toMinutes_addMinutes, Instant.inLeapSecond_ofMinutes, count]
    unfold Minutes.saturate
    simp only [Bool.false_eq_true, false_and, if_false]
    omega
  | day =>
    simp only [increment, shortestBucket, longestBucket, minutesPerUnit] at fits ⊢
    rw [Instant.toMinutes_addDays, count]
    unfold Minutes.saturate
    omega
  | week =>
    simp only [increment, shortestBucket, longestBucket, minutesPerUnit] at fits ⊢
    rw [Instant.toMinutes_addDays, count]
    unfold Minutes.saturate
    omega
  | month =>
    simp only [increment, shortestBucket, longestBucket, minutesPerDay] at fits ⊢
    have moved := Instant.toMinutes_addMonths_one_ofMinutes (by omega) fits
    omega

/- January 1970 measures its own 31 days, and a minute past the range's end measures minus one
minute. -/
example : Granularity.month.measuredBucket 0 = 31 * 1440 := by decide
example : Granularity.day.measuredBucket 136837781280 = -1 := by decide

end Granularity

namespace Job

/-- Where a backfill of `job` ends when asked to end at `endAt` at `now`: there, else at the
present less the job's lag. -/
def backfillFinish (job : Job) (endAt : Option Instant) (now : Instant) : Instant :=
  endAt.getD (now.addMinutes (-(job.hoursOfLag.val : Int) * minutesPerHour))

/-- How far a backfill shifts both edges of its window: `range - 1` units of the granularity. -/
def backfillShift (job : Job) : Int :=
  job.granularity.minutesPerUnit * (job.granularityRange.val - 1 : Nat)

/-- The window edge a bound of a backfill gives: the start of its bucket, shifted. -/
def backfillEdge (job : Job) (t : Instant) : Int :=
  job.granularity.intervalEnd t + job.backfillShift

/-- The span a backfill from `start` replays, between the two window edges. -/
def backfillSpan (job : Job) (start : Instant) (endAt : Option Instant) (now : Instant) : Int :=
  job.backfillEdge (job.backfillFinish endAt now) - job.backfillEdge start

/-- The plan a backfill returns once its checks pass, with baseline count `count`. -/
def backfillOf (job : Job) (start finish : Instant) (count : Count) : Backfill where
  granularity := job.granularity
  queryStart := job.granularity.subtractIntervals (Instant.ofMinutes (job.backfillEdge start))
    (count.scale job.granularityRange).val
  windowStart := job.backfillEdge start
  windowEnd := job.backfillEdge finish
  intervals := count

theorem backfillShift_bounds (job : Job) :
    0 ≤ job.backfillShift ∧ job.backfillShift ≤ 43800 * Count.bound := by
  have := job.granularityRange.le_bound
  unfold backfillShift Count.bound at *
  cases job.granularity <;> simp only [Granularity.minutesPerUnit] <;> omega

/-- The edges move together, so the span is the distance between the floored ends. -/
theorem backfillSpan_eq (job : Job) (start : Instant) (endAt : Option Instant) (now : Instant) :
    job.backfillSpan start endAt now =
      job.granularity.intervalEnd (job.backfillFinish endAt now) -
        job.granularity.intervalEnd start := by
  unfold backfillSpan backfillEdge
  omega

/-- Every quantity a backfill computes is a word, for any granularity range. -/
theorem isWord_backfill (job : Job) (start : Instant) (endAt : Option Instant) (now : Instant) :
    Word.IsWord job.backfillShift ∧ Word.IsWord (job.backfillEdge start) ∧
      Word.IsWord (job.backfillEdge (job.backfillFinish endAt now)) ∧
      Word.IsWord (job.backfillSpan start endAt now) ∧
      Word.IsWord (job.granularity.measuredBucket (job.backfillEdge start)) := by
  have shift := job.backfillShift_bounds
  have startBucket := job.granularity.intervalEnd_bounds start
  have finishBucket := job.granularity.intervalEnd_bounds (job.backfillFinish endAt now)
  have moved := (job.granularity.increment (Instant.ofMinutes (job.backfillEdge start)) 1).toMinutes_mem
  have := Instant.earliest_toMinutes
  have := Instant.latest_toMinutes
  unfold Count.bound at shift
  unfold Job.backfillEdge at moved
  unfold Job.backfillSpan Granularity.measuredBucket Job.backfillEdge Word.IsWord Word.least
    Word.greatest
  omega

end Job

namespace Backfill

section Plan

variable (job : Job) (start : Instant) (endAt : Option Instant) (now : Instant)
  (lookback : Lookback)

/-- A plan checks the range, then the span against the bucket measured at the window start, and
then looks the baseline count up. -/
theorem plan_eq :
    plan job start endAt now lookback =
      if job.granularityRange.val = 0 then .error .invalidGranularityRange
      else if job.backfillSpan start endAt now <
          job.granularity.measuredBucket (job.backfillEdge start) then
        .error (.backfillTooShort job.granularity (job.backfillSpan start endAt now)
          (job.granularity.measuredBucket (job.backfillEdge start)))
      else ((job.baselineCount lookback).mapError .config).map
        (job.backfillOf start (job.backfillFinish endAt now)) := by
  unfold plan Job.checkedRange Job.backfillSpan Job.backfillEdge Job.backfillShift
    Job.backfillFinish Granularity.measuredBucket Job.backfillOf
  by_cases zero : job.granularityRange.val = 0
  · simp only [zero, if_true, bind, Except.bind]
  · simp only [zero, if_false, bind, Except.bind]
    split_ifs
    · rfl
    · cases job.baselineCount lookback <;> rfl

theorem plan_of_zero (zero : job.granularityRange.val = 0) :
    plan job start endAt now lookback = .error .invalidGranularityRange := by
  rw [plan_eq, if_pos zero]

theorem plan_of_short (range : job.granularityRange.val ≠ 0)
    (short : job.backfillSpan start endAt now <
      job.granularity.measuredBucket (job.backfillEdge start)) :
    plan job start endAt now lookback =
      .error (.backfillTooShort job.granularity (job.backfillSpan start endAt now)
        (job.granularity.measuredBucket (job.backfillEdge start))) := by
  rw [plan_eq, if_neg range, if_pos short]

theorem plan_of_long (range : job.granularityRange.val ≠ 0)
    (long : job.granularity.measuredBucket (job.backfillEdge start) ≤
      job.backfillSpan start endAt now) :
    plan job start endAt now lookback = ((job.baselineCount lookback).mapError .config).map
      (job.backfillOf start (job.backfillFinish endAt now)) := by
  rw [plan_eq, if_neg range, if_neg (Int.not_lt.2 long)]

/-- A plan returns exactly when its range is not zero, the span reaches the measured bucket and
the baseline count resolves; it is then the plan of that count. -/
theorem plan_eq_ok_iff {w : Backfill} :
    plan job start endAt now lookback = .ok w ↔
      job.granularityRange.val ≠ 0 ∧
        job.granularity.measuredBucket (job.backfillEdge start) ≤ job.backfillSpan start endAt now ∧
        ∃ count, job.baselineCount lookback = .ok count ∧
          w = job.backfillOf start (job.backfillFinish endAt now) count := by
  by_cases zero : job.granularityRange.val = 0
  · rw [plan_of_zero job start endAt now lookback zero]
    exact iff_of_false (fun refused => by cases refused) fun returned => returned.1 zero
  by_cases short : job.backfillSpan start endAt now <
      job.granularity.measuredBucket (job.backfillEdge start)
  · rw [plan_of_short job start endAt now lookback zero short]
    exact iff_of_false (fun refused => by cases refused) fun returned =>
      Int.not_le.2 short returned.2.1
  rw [plan_of_long job start endAt now lookback zero (Int.not_lt.1 short)]
  cases baseline : job.baselineCount lookback with
  | error e =>
    refine iff_of_false (fun refused => by cases refused) ?_
    rintro ⟨-, -, count, found, -⟩
    cases found
  | ok count =>
    simp only [Except.mapError, Except.map, Except.ok.injEq]
    refine ⟨fun planned => ⟨zero, Int.not_lt.1 short, count, rfl, planned.symm⟩, ?_⟩
    rintro ⟨-, -, found, same, planned⟩
    cases same
    exact planned.symm

end Plan

/-- A backfill plan checks the range, the span and the baseline in that order, in words; a plan it
returns covers a shortest bucket when the buckets after its window start fit in the range. -/
theorem plan_checked_span (job : Job) (start : Instant) (endAt : Option Instant) (now : Instant)
    (lookback : Lookback) :
    (plan job start endAt now lookback = .error .invalidGranularityRange ↔
      job.granularityRange.val = 0) ∧
    (job.granularityRange.val ≠ 0 →
      (plan job start endAt now lookback =
          .error (.backfillTooShort job.granularity (job.backfillSpan start endAt now)
            (job.granularity.measuredBucket (job.backfillEdge start))) ↔
        job.backfillSpan start endAt now <
          job.granularity.measuredBucket (job.backfillEdge start))) ∧
    (job.granularityRange.val ≠ 0 →
      job.granularity.measuredBucket (job.backfillEdge start) ≤ job.backfillSpan start endAt now →
      ∀ e, plan job start endAt now lookback = .error (.config e) ↔
        job.baselineCount lookback = .error e) ∧
    ((∃ w, plan job start endAt now lookback = .ok w) ↔
      job.granularityRange.val ≠ 0 ∧
        job.granularity.measuredBucket (job.backfillEdge start) ≤ job.backfillSpan start endAt now ∧
        ∃ count, job.baselineCount lookback = .ok count) ∧
    (Word.IsWord job.backfillShift ∧ Word.IsWord (job.backfillEdge start) ∧
      Word.IsWord (job.backfillEdge (job.backfillFinish endAt now)) ∧
      Word.IsWord (job.backfillSpan start endAt now) ∧
      Word.IsWord (job.granularity.measuredBucket (job.backfillEdge start))) ∧
    (∀ w, plan job start endAt now lookback = .ok w →
      w.span = job.granularity.intervalEnd (job.backfillFinish endAt now) -
        job.granularity.intervalEnd start ∧
      w.queryStart ≤ Instant.ofMinutes w.windowStart ∧
      (w.windowStart + job.granularity.longestBucket ≤ Instant.latest.toMinutes →
        job.granularity.shortestBucket ≤ w.span)) := by
  refine ⟨?_, fun range => ?_, fun range long e => ?_, ?_, job.isWord_backfill start endAt now,
    fun w planned => ?_⟩
  · by_cases zero : job.granularityRange.val = 0
    · exact iff_of_true (plan_of_zero job start endAt now lookback zero) zero
    · rw [plan_eq, if_neg zero]
      split_ifs
      · simp [zero]
      · cases job.baselineCount lookback <;> simp [Except.map, Except.mapError, zero]
  · by_cases short : job.backfillSpan start endAt now <
        job.granularity.measuredBucket (job.backfillEdge start)
    · exact iff_of_true (plan_of_short job start endAt now lookback range short) short
    · rw [plan_of_long job start endAt now lookback range (Int.not_lt.1 short)]
      cases job.baselineCount lookback <;> simp [Except.map, Except.mapError, short]
  · rw [plan_of_long job start endAt now lookback range long]
    cases job.baselineCount lookback <;> simp [Except.map, Except.mapError]
  · constructor
    · rintro ⟨w, planned⟩
      obtain ⟨range, long, count, baseline, -⟩ := (plan_eq_ok_iff job start endAt now lookback).1 planned
      exact ⟨range, long, count, baseline⟩
    · rintro ⟨range, long, count, baseline⟩
      exact ⟨_, (plan_eq_ok_iff job start endAt now lookback).2 ⟨range, long, count, baseline, rfl⟩⟩
  · obtain ⟨-, long, count, -, rfl⟩ := (plan_eq_ok_iff job start endAt now lookback).1 planned
    refine ⟨job.backfillSpan_eq start endAt now, Window.subtractIntervals_le _ _ _, fun fits => ?_⟩
    -- the guard passed, and inside the range it measures at least a shortest bucket
    exact Int.le_trans (job.granularity.shortestBucket_le_measuredBucket fits) long

/-- An hourly job of range two, backfilled over the range's last instant: its window starts a
minute past the range, the guard measures a bucket of minus one minute there, and the plan of
an empty span returns. -/
theorem plan_hourly_empty_span_at_range_end :
    Granularity.hour.measuredBucket 136837781280 = -1 ∧
      (plan { Job.create "job" .hour .hour with granularityRange := ⟨2, by decide⟩ }
        Instant.latest (some Instant.latest) Instant.latest Lookback.defaults).toOption.map span =
        some 0 := by
  decide +kernel

end Backfill

end Cadence
