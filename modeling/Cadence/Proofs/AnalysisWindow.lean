import Cadence.Proofs.Lifecycle
import Cadence.Schedule.Window

/-!
# The window a run reads

A run reads the buckets of a window that ends where the job's query time lies. The scheduler
takes the query time from the job's frequency, the window takes its end from the job's
granularity and holds it as an instant. For a job whose frequency is its granularity's, the two
agree on every present instant, with one exception: a query time before the supported range,
which the first days of a weekly job's range give, ends the window at the range's first minute.
The window never starts after it ends, and it ends no later than the lagged present.

Main statements: `Window.forJob_eq`, the window of a run, and `Job.toMinutes_lagged`, the
lagged present it ends by.
-/

namespace Cadence

namespace Job

/-- The baseline count resolves when the job fixes it or the lookback has a count for the job's
granularity. -/
theorem baselineCount_ok {job : Job} {lookback : Lookback}
    (baseline : job.timeseriesRange.isSome ∨ (lookback.get job.granularity).isSome) :
    ∃ count, job.baselineCount lookback = .ok count := by
  unfold baselineCount
  cases fixed : job.timeseriesRange with
  | some count => exact ⟨count, rfl⟩
  | none =>
    rw [fixed] at baseline
    cases configured : lookback.get job.granularity with
    | none =>
      rw [configured] at baseline
      simp at baseline
    | some count => exact ⟨count, by simp only [Granularity.lookbackCount, Lookback.count, configured]⟩

/-- The lagged present in minutes: the present's minute count less the lag, saturated. A lag
counted back from a leap second starts from the second after it, one minute later. -/
theorem toMinutes_lagged (job : Job) (now : Instant) :
    (job.lagged now).toMinutes = Minutes.saturate (now.toMinutes - 60 * job.hoursOfLag.val +
      if now.inLeapSecond ∧ 0 < job.hoursOfLag.val then 1 else 0) := by
  unfold lagged Granularity.decrement
  rw [Instant.toMinutes_addMinutes]
  have hour : minutesPerHour = 60 := rfl
  split_ifs with moved leap leap
  · rw [hour]
    congr 1
    omega
  · rw [hour] at moved
    exact absurd ⟨moved.1, by omega⟩ leap
  · rw [hour] at moved
    exact absurd ⟨leap.1, by omega⟩ moved
  · rw [hour]
    congr 1
    omega

end Job

namespace Window

/-- A job with a granularity range and a baseline count gets the window of `count` times its
range buckets that ends at the start of its bucket holding the lagged present. -/
theorem forJob_eq {job : Job} {lookback : Lookback} {count : Count}
    (range : 1 ≤ job.granularityRange.val) (baseline : job.baselineCount lookback = .ok count)
    (now : Instant) :
    forJob job now lookback = .ok
      { granularity := job.granularity,
        startsAt := job.granularity.subtractIntervals
          (Instant.ofMinutes (job.granularity.intervalEnd (job.lagged now)))
          (count.scale job.granularityRange).val,
        endsAt := Instant.ofMinutes (job.granularity.intervalEnd (job.lagged now)),
        intervals := count.scale job.granularityRange } := by
  unfold forJob Job.checkedRange
  rw [if_neg (by omega)]
  simp only [bind, Except.bind, baseline, Except.mapError, endingAt, pure, Except.pure]

/-- Moving back by whole buckets never gives a later instant. -/
theorem subtractIntervals_le (g : Granularity) (t : Instant) (count : Nat) :
    g.subtractIntervals t count ≤ t := by
  cases g with
  | month => exact t.subMonths_le count
  | _ => exact t.addSeconds_le (by omega)

/-- A job whose frequency is its granularity's has a window at every instant: it ends at the
recorded query time pulled up to the range's first minute, never after the lagged present. -/
theorem forJob_end_eq_query (job : Job) (now : Instant) (lookback : Lookback)
    (sameFrequency : job.frequency = .ofGranularity job.granularity)
    (range : 1 ≤ job.granularityRange.val)
    (baseline : job.timeseriesRange.isSome ∨ (lookback.get job.granularity).isSome) :
    ∃ w : Window, forJob job now lookback = .ok w ∧
      w.endMinutes = max Instant.earliest.toMinutes (job.scheduleTimes now).query.val ∧
      w.startsAt ≤ w.endsAt ∧
      w.endMinutes ≤ max Instant.earliest.toMinutes (now.toMinutes - 60 * job.hoursOfLag.val +
        if now.inLeapSecond ∧ 0 < job.hoursOfLag.val then 1 else 0) := by
  obtain ⟨count, resolved⟩ := Job.baselineCount_ok baseline
  have granular : job.frequency.granularity? = some job.granularity :=
    (Frequency.granularity?_eq_some_iff _ _).2 sameFrequency
  have last := Granularity.isLastStart_intervalEnd job.granularity (job.lagged now)
  have laggedRange := (job.lagged now).toMinutes_mem
  have lagged := Job.toMinutes_lagged job now
  refine ⟨_, forJob_eq range resolved now, ?_, subtractIntervals_le _ _ _, ?_⟩
  · rw [endMinutes, Instant.toMinutes_ofMinutes, Job.query_scheduleTimes,
      Job.queryMinutes_of_granularity granular]
    have := last.le
    unfold Minutes.saturate
    omega
  · rw [endMinutes, Instant.toMinutes_ofMinutes]
    have := last.le
    unfold Minutes.saturate at lagged ⊢
    omega

/-- A daily job at the range's first instant: its window ends at the range's first minute. -/
theorem forJob_end_eq_query_daily_earliest :
    (Job.create "job" .day .day).frequency =
        .ofGranularity (Job.create "job" .day .day).granularity ∧
      1 ≤ (Job.create "job" .day .day).granularityRange.val ∧
      ((Job.create "job" .day .day).timeseriesRange.isSome ∨
        (Lookback.defaults.get (Job.create "job" .day .day).granularity).isSome) ∧
      ∃ w : Window, forJob (Job.create "job" .day .day) Instant.earliest Lookback.defaults = .ok w ∧
        w.endMinutes = max Instant.earliest.toMinutes
          ((Job.create "job" .day .day).scheduleTimes Instant.earliest).query.val ∧
        w.startsAt ≤ w.endsAt ∧
        w.endMinutes ≤ max Instant.earliest.toMinutes (Instant.earliest.toMinutes -
          60 * (Job.create "job" .day .day).hoursOfLag.val +
            if Instant.earliest.inLeapSecond ∧ 0 < (Job.create "job" .day .day).hoursOfLag.val
            then 1 else 0) :=
  have sameFrequency : (Job.create "job" .day .day).frequency =
      .ofGranularity (Job.create "job" .day .day).granularity := rfl
  have range : 1 ≤ (Job.create "job" .day .day).granularityRange.val := by decide
  have baseline : (Job.create "job" .day .day).timeseriesRange.isSome ∨
      (Lookback.defaults.get (Job.create "job" .day .day).granularity).isSome := Or.inr rfl
  ⟨sameFrequency, range, baseline,
    forJob_end_eq_query (Job.create "job" .day .day) Instant.earliest Lookback.defaults
      sameFrequency range baseline⟩

/-- A weekly job at the range's first instant, a Thursday: the scheduler queries from the Monday
before, three days before the range, while the window, an instant, ends at the range's first
minute. -/
theorem forJob_week_earliest_after_query :
    ∃ w : Window, forJob (Job.create "job" .week .week) Instant.earliest Lookback.defaults = .ok w ∧
      w.endMinutes = Instant.earliest.toMinutes ∧
      ((Job.create "job" .week .week).scheduleTimes Instant.earliest).query.val =
        Instant.earliest.toMinutes - 4320 := by
  have query : (Job.create "job" .week .week).queryMinutes Instant.earliest = -138910024800 := by
    decide +kernel
  have granular : (Job.create "job" .week .week).frequency.granularity? =
      some (Job.create "job" .week .week).granularity := by
    decide +kernel
  have resolved : (Job.create "job" .week .week).baselineCount Lookback.defaults =
      .ok ⟨12, by decide⟩ := rfl
  refine ⟨_, forJob_eq (by decide) resolved Instant.earliest, ?_, ?_⟩
  · rw [endMinutes, Instant.toMinutes_ofMinutes, ← Job.queryMinutes_of_granularity granular, query]
    decide
  · rw [Job.query_scheduleTimes, query, Instant.earliest_toMinutes]
    decide

end Window

end Cadence
