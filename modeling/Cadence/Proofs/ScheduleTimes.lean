import Mathlib
import Cadence.Proofs.AnalysisWindow

/-!
# The first scheduling decision

A job is scheduled at a present instant by lagging the instant by the job's hours of lag and
reading the query time off the lagged instant: its minute for a job that runs every minute, and
the start of the bucket that holds it for a job that runs once per bucket of a granularity. The
run follows the query by the lag and by an offset within the hour.

The lag is counted on the calendar, so it stops at the range's first instant: a lag of more
hours than lie between the present and the range's start puts the query at the start of the
range, later than the present less the lag. A lag counted back from a leap second starts from
the second after it, one minute later again. Every sum is a word, so the decision never
overflows, whatever the lag and the identifier.

Main statement: `Job.scheduleTimes_laggedBucket_offset`.
-/

namespace Cadence

namespace Job

/-- The present less the job's lag in minutes, a minute later when counted back from a leap
second, before it is pulled up to the range's first minute. -/
def lagMinutes (job : Job) (now : Instant) : Int :=
  now.toMinutes - 60 * job.hoursOfLag.val +
    if now.inLeapSecond ∧ 0 < job.hoursOfLag.val then 1 else 0

/-- The present less the lag is never after the range: a leap second adds its minute only to a
lag of at least an hour. -/
theorem lagMinutes_le_latest (job : Job) (now : Instant) :
    job.lagMinutes now ≤ Instant.latest.toMinutes := by
  have inRange := now.toMinutes_mem.2
  unfold lagMinutes
  split_ifs with leap
  · have lagged := leap.2
    omega
  · omega

/-- The lagged present is the present less the lag, pulled up to the range's first minute. -/
theorem toMinutes_lagged_eq_max (job : Job) (now : Instant) :
    (job.lagged now).toMinutes = max Instant.earliest.toMinutes (job.lagMinutes now) := by
  have saturated : (job.lagged now).toMinutes = Minutes.saturate (job.lagMinutes now) :=
    job.toMinutes_lagged now
  rw [saturated, Minutes.saturate, Int.min_eq_left (lagMinutes_le_latest job now)]

theorem queryMinutes_of_minute {job : Job} (minute : job.frequency = .minute) (now : Instant) :
    job.queryMinutes now = (job.lagged now).toMinutes := by
  have noBuckets := (Frequency.granularity?_eq_none_iff _).2 minute
  simp only [queryMinutes, noBuckets]

/-- A job that runs once per bucket queries the last bucket start at or before the lagged
present. -/
theorem isLastStart_queryMinutes {job : Job} {g : Granularity}
    (granular : job.frequency = .ofGranularity g) (now : Instant) :
    g.IsLastStart (job.lagged now).toMinutes (job.queryMinutes now) := by
  rw [queryMinutes_of_granularity ((Frequency.granularity?_eq_some_iff _ _).2 granular)]
  exact Granularity.isLastStart_intervalEnd g (job.lagged now)

theorem queryMinutes_le_lagged (job : Job) (now : Instant) :
    job.queryMinutes now ≤ (job.lagged now).toMinutes := by
  cases granular : job.frequency.granularity? with
  | none =>
    rw [queryMinutes_of_minute ((Frequency.granularity?_eq_none_iff _).1 granular)]
  | some g =>
    have granularFrequency := (Frequency.granularity?_eq_some_iff _ _).1 granular
    exact (isLastStart_queryMinutes granularFrequency now).le

/-- The run follows the query by exactly the lag and the offset: the sum is a word. -/
theorem run_scheduleTimes (job : Job) (now : Instant) :
    (job.scheduleTimes now).run.val =
      job.queryMinutes now + 60 * job.hoursOfLag.val + job.runOffset :=
  (job.timesInvariant_scheduleTimes now).gap

theorem runOffset_of_id {job : Job} (granular : job.frequency ≠ .minute) {id : Word}
    (stored : job.id = some id) : job.runOffset = ((id.val.natAbs % 60 : Nat) : Int) := by
  unfold runOffset
  rw [stored]
  split <;> simp_all

theorem runOffset_of_none {job : Job} (granular : job.frequency ≠ .minute)
    (unstored : job.id = none) : job.runOffset = 30 := by
  unfold runOffset
  rw [unstored]
  split <;> simp_all

/-- The first scheduling at every instant: the query is the bucket start of the saturated lagged
present, and the run follows it by the lag and an offset within the hour, in words. -/
theorem scheduleTimes_laggedBucket_offset (job : Job) (now : Instant) :
    let times := job.scheduleTimes now
    (job.lagged now).toMinutes =
      max Instant.earliest.toMinutes (job.lagMinutes now) ∧
    (job.frequency = .minute → times.query.val = (job.lagged now).toMinutes) ∧
    (∀ g, job.frequency = .ofGranularity g →
      g.IsLastStart (job.lagged now).toMinutes times.query.val) ∧
    times.query.val ≤ max Instant.earliest.toMinutes (job.lagMinutes now) ∧
    times.run.val = times.query.val + 60 * job.hoursOfLag.val + job.runOffset ∧
    Word.IsWord (times.query.val + 60 * job.hoursOfLag.val + job.runOffset) ∧
    (0 ≤ job.runOffset ∧ job.runOffset < 60) ∧
    (job.frequency = .minute → job.runOffset = 1) ∧
    (job.frequency ≠ .minute → ∀ id, job.id = some id →
      job.runOffset = ((id.val.natAbs % 60 : Nat) : Int)) ∧
    (job.frequency ≠ .minute → job.id = none → job.runOffset = 30) := by
  intro times
  have query : times.query.val = job.queryMinutes now := query_scheduleTimes job now
  have run := run_scheduleTimes job now
  refine ⟨toMinutes_lagged_eq_max job now, ?_, ?_, ?_, ?_, ?_, job.runOffset_bounds,
    runOffset_of_minute, fun granular _ stored => runOffset_of_id granular stored,
    runOffset_of_none⟩
  · intro minute
    rw [query, queryMinutes_of_minute minute]
  · intro g granular
    rw [query]
    exact isLastStart_queryMinutes granular now
  · rw [query, ← toMinutes_lagged_eq_max]
    exact queryMinutes_le_lagged job now
  · rw [query]
    exact run
  · rw [query, ← run]
    exact times.run.isWord

/-- A job that runs every minute with the greatest lag, scheduled at the epoch: the lag reaches
past the range's start, so the query is the range's first minute and not the present less the
lag. -/
theorem scheduleTimes_minute_lag_stops_at_earliest :
    let job : Job := ⟨none, "job", .minute, .hour, .one, ⟨4294967295, by decide⟩, none,
      .created, none, none⟩
    (job.scheduleTimes (Instant.ofMinutes 0)).query.val = -138910020480 ∧
      (Instant.ofMinutes 0).toMinutes - 60 * job.hoursOfLag.val = -257698037700 := by
  decide +kernel

end Job

end Cadence
