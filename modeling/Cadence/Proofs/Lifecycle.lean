import Cadence.Proofs.Buckets
import Cadence.Schedule.Times

/-!
# The schedule of a job over its lifetime

A job is scheduled once and then rescheduled after each run. Scheduling records the start of
the frequency's bucket that holds the lagged present, and a run the lag and the run offset
later; rescheduling moves the query time one frequency unit on, through an instant, and the run
time by as much.

This module follows the recorded times along any such lifetime. The gap between run and query
never changes. A granular job's query time stays on the grid of its buckets: each reschedule
moves it to the next bucket start, except that a bucket start beyond the supported range cannot
be reached as an instant, so the query time stops at the range's last minute and stays there. A
job that runs every minute moves one minute at a time, and its times are checked words.

The first query of a weekly job can lie before the range, when the lagged present falls in the
range's first days, which precede its first Monday. Read back as an instant, that query is the
range's first instant, a Thursday, and the job then keeps Thursday midnights: the gap and the
checked words hold along every lifetime, the grid only along those whose first query lies in
the range.

Main statements: `Job.reschedule_setSchedule`, one reschedule, and `Job.foldlM_reschedule`, a
whole lifetime, both keeping `Job.TimesInvariant`.
-/

namespace Cadence

namespace Frequency

theorem granularity?_eq_none_iff (f : Frequency) : f.granularity? = none ↔ f = minute := by
  cases f <;> decide +kernel

theorem granularity?_eq_some_iff (f : Frequency) (g : Granularity) :
    f.granularity? = some g ↔ f = ofGranularity g := by
  cases f <;> cases g <;> decide +kernel

/-- The minutes by which a job of frequency `f` moves its query time from `query`: one minute,
or the length of the bucket that starts there. -/
def stepAt (f : Frequency) (query : Int) : Int :=
  match f.granularity? with
  | none => 1
  | some g => g.bucketLength (Instant.ofMinutes query)

/-- The query time that follows `query` for a job of frequency `f`: one step on, pulled back to
the last minute of the range for a granular frequency. -/
def nextQuery (f : Frequency) (query : Int) : Int :=
  match f.granularity? with
  | none => query + 1
  | some _ => min (query + f.stepAt query) Instant.latest.toMinutes

/-- The next query time is one step on, unless a granular job's step would leave the range. -/
theorem nextQuery_cases (f : Frequency) (query : Int) :
    f.nextQuery query = query + f.stepAt query ∨
      f ≠ minute ∧ Instant.latest.toMinutes < query + f.stepAt query ∧
        f.nextQuery query = Instant.latest.toMinutes := by
  cases granular : f.granularity? with
  | none =>
    left
    simp only [nextQuery, stepAt, granular]
  | some g =>
    have granularFrequency : f ≠ minute := fun minute => by
      rw [(granularity?_eq_none_iff f).2 minute] at granular
      contradiction
    simp only [nextQuery, granular]
    by_cases fits : query + f.stepAt query ≤ Instant.latest.toMinutes
    · exact Or.inl (Int.min_eq_left fits)
    · exact Or.inr ⟨granularFrequency, by omega, Int.min_eq_right (by omega)⟩

end Frequency

namespace Granularity

theorem bucketLength_pos (g : Granularity) (t : Instant) : 0 < g.bucketLength t := by
  cases g with
  | month =>
    have := Civil.monthLength_ge t.date.year t.date.month
    simp only [bucketLength]
    omega
  | _ => simp only [bucketLength, minutesPerUnit]; omega

/-- A query time on the grid of `g`: a minute count of the range that starts a bucket, or the
range's last minute. -/
structure OnGrid (g : Granularity) (query : Int) : Prop where
  lower : Instant.earliest.toMinutes ≤ query
  upper : query ≤ Instant.latest.toMinutes
  start : g.IsStart query ∨ query = Instant.latest.toMinutes

/-- From the range's last minute no month can be added. -/
theorem increment_month_latest :
    (month.increment (Instant.ofMinutes Instant.latest.toMinutes) 1).toMinutes =
      Instant.latest.toMinutes := by
  decide

/-- One bucket on from a query time on the grid is the next bucket start, pulled back to the
range's last minute. -/
theorem toMinutes_increment_ofMinutes (g : Granularity) {query : Int} (grid : g.OnGrid query) :
    (g.increment (Instant.ofMinutes query) 1).toMinutes =
      min (query + g.bucketLength (Instant.ofMinutes query)) Instant.latest.toMinutes := by
  have count : (Instant.ofMinutes query).toMinutes = query := by
    rw [Instant.toMinutes_ofMinutes, Instant.saturate_of_mem grid.lower grid.upper]
  have := grid.lower
  have := Instant.earliest_toMinutes
  have := Instant.latest_toMinutes
  cases g with
  | hour =>
    simp only [increment, bucketLength, minutesPerUnit, minutesPerHour]
    rw [Instant.toMinutes_addMinutes, Instant.inLeapSecond_ofMinutes, count]
    unfold Minutes.saturate
    simp only [Bool.false_eq_true, false_and, if_false]
    omega
  | day =>
    simp only [increment, bucketLength, minutesPerUnit]
    rw [Instant.toMinutes_addDays, count]
    unfold Minutes.saturate
    omega
  | week =>
    simp only [increment, bucketLength, minutesPerUnit]
    rw [Instant.toMinutes_addDays, count]
    unfold Minutes.saturate
    omega
  | month =>
    rcases grid.start with start | last
    · obtain ⟨index, rfl⟩ := (isStart_month_iff query).1 start
      have range := Instant.monthIndex_mem_of_monthStart_mem grid.lower grid.upper
      have next := Civil.monthStart_succ index
      simp only [increment, bucketLength]
      rw [Instant.toMinutes_addMonths_ofMinutes range.1 range.2 1,
        Instant.date_ofMinutes_monthStart grid.lower grid.upper]
      simp only [Civil.firstOfIndex, Int.natCast_one]
      unfold Minutes.saturate
      omega
    · subst last
      have := bucketLength_pos month (Instant.ofMinutes Instant.latest.toMinutes)
      rw [increment_month_latest]
      omega

/-- One bucket length on from a bucket start is the next bucket start. -/
theorem isStart_add_bucketLength {g : Granularity} {query : Int} (grid : g.OnGrid query)
    (start : g.IsStart query) : g.IsStart (query + g.bucketLength (Instant.ofMinutes query)) := by
  cases g with
  | hour =>
    simp only [IsStart, bucketLength, minutesPerUnit] at start ⊢
    omega
  | day =>
    simp only [IsStart, bucketLength, minutesPerUnit] at start ⊢
    omega
  | week =>
    rw [isStart_week_iff] at start ⊢
    simp only [bucketLength, minutesPerUnit, weekAnchor, minutesPerWeek] at start ⊢
    omega
  | month =>
    obtain ⟨index, rfl⟩ := (isStart_month_iff query).1 start
    have next := Civil.monthStart_succ index
    refine (isStart_month_iff _).2 ⟨index + 1, ?_⟩
    simp only [bucketLength]
    rw [Instant.date_ofMinutes_monthStart grid.lower grid.upper]
    simp only [Civil.firstOfIndex]
    omega

/-- A bucket start of the range, read as an instant, is its own bucket's start. -/
theorem intervalEnd_ofMinutes_of_isStart {g : Granularity} {query : Int} (grid : g.OnGrid query)
    (start : g.IsStart query) : g.intervalEnd (Instant.ofMinutes query) = query := by
  have count : (Instant.ofMinutes query).toMinutes = query := by
    rw [Instant.toMinutes_ofMinutes, Instant.saturate_of_mem grid.lower grid.upper]
  have own : g.IsLastStart (Instant.ofMinutes query).toMinutes query :=
    ⟨start, Int.le_of_eq count.symm, fun _ _ before => count ▸ before⟩
  exact (isLastStart_intervalEnd g _).unique own

end Granularity

namespace Job

/-- Reschedules the job at `now` and records the new times. -/
def reschedule (job : Job) (now : Instant) : Except Fault Job :=
  (job.rescheduleTimes now).map job.setSchedule

/-- The job scheduled at `first` and then rescheduled at each instant of `rest` in turn. -/
def lifecycle (job : Job) (first : Instant) (rest : List Instant) : Except Fault Job :=
  rest.foldlM reschedule (job.setSchedule (job.scheduleTimes first))

/-- What the recorded times of a job keep from one scheduling decision to the next: the run
lies the lag and the run offset after the query, the query is at most a week before the range,
and a granular job's query is not after it. -/
structure TimesInvariant (job : Job) (times : Times) : Prop where
  gap : times.run.val = times.query.val + 60 * job.hoursOfLag.val + job.runOffset
  lower : Instant.earliest.toMinutes - minutesPerWeek ≤ times.query.val
  upper : job.frequency ≠ .minute → times.query.val ≤ Instant.latest.toMinutes

/-- The query time lies on the grid of the buckets of the job's frequency, if it has any. -/
def QueryOnGrid (job : Job) (query : Int) : Prop :=
  ∀ g, job.frequency.granularity? = some g → g.OnGrid query

theorem queryOnGrid_of_minute {job : Job} (minute : job.frequency = .minute) (query : Int) :
    job.QueryOnGrid query := fun g granular => by
  rw [(Frequency.granularity?_eq_none_iff _).2 minute] at granular
  contradiction

theorem query_scheduleTimes (job : Job) (now : Instant) :
    (job.scheduleTimes now).query.val = job.queryMinutes now := rfl

theorem queryMinutes_of_granularity {job : Job} {g : Granularity}
    (granular : job.frequency.granularity? = some g) (now : Instant) :
    job.queryMinutes now = g.intervalEnd (job.lagged now) := by
  simp only [queryMinutes, granular]

theorem timesInvariant_scheduleTimes (job : Job) (first : Instant) :
    job.TimesInvariant (job.scheduleTimes first) where
  gap := by
    simp only [scheduleTimes, minutesPerHour]
    omega
  lower := by
    have := job.queryMinutes_bounds first
    have := Instant.earliest_toMinutes
    rw [query_scheduleTimes, minutesPerWeek]
    omega
  upper granularFrequency := by
    obtain ⟨g, granular⟩ := Option.ne_none_iff_exists'.1
      (fun none => granularFrequency ((Frequency.granularity?_eq_none_iff _).1 none))
    rw [query_scheduleTimes, queryMinutes_of_granularity granular]
    exact Int.le_trans (Granularity.isLastStart_intervalEnd g (job.lagged first)).le
      (job.lagged first).toMinutes_mem.2

/-- The first query lies on the grid when it lies in the range. -/
theorem queryOnGrid_scheduleTimes (job : Job) (first : Instant)
    (inRange : Instant.earliest.toMinutes ≤ job.queryMinutes first) :
    job.QueryOnGrid (job.scheduleTimes first).query.val := by
  intro g granular
  have last := Granularity.isLastStart_intervalEnd g (job.lagged first)
  rw [queryMinutes_of_granularity granular] at inRange
  rw [query_scheduleTimes, queryMinutes_of_granularity granular]
  exact ⟨inRange, Int.le_trans last.le (job.lagged first).toMinutes_mem.2, Or.inl last.isStart⟩

theorem word_of_natAbs_le {x : Int} (small : x.natAbs ≤ 2 ^ 62) : Word.IsWord x := by
  unfold Word.IsWord Word.least Word.greatest
  omega

/-- One reschedule keeps the invariant, and keeps a query time on the grid, moving it to the next
query time. Only a job that runs every minute can overflow, when its run time is the greatest
word. -/
theorem reschedule_setSchedule (job : Job) {times : Times} (inv : job.TimesInvariant times)
    (noOverflow : job.frequency = .minute → times.run.val + 1 ≤ Word.greatest) (now : Instant) :
    ∃ next : Times, (job.setSchedule times).reschedule now = .ok (job.setSchedule next) ∧
      job.TimesInvariant next ∧
      (job.QueryOnGrid times.query.val → job.QueryOnGrid next.query.val ∧
        next.query.val = job.frequency.nextQuery times.query.val) := by
  have gap := inv.gap
  have offset := job.runOffset_bounds
  have lower := inv.lower
  have := Instant.earliest_toMinutes
  have := Instant.latest_toMinutes
  unfold minutesPerWeek at lower
  unfold reschedule rescheduleTimes
  simp only [setSchedule]
  cases granular : job.frequency.granularity? with
  | none =>
    have minute := (Frequency.granularity?_eq_none_iff _).1 granular
    have bound := noOverflow minute
    have queryWord : Word.IsWord (times.query.val + 1) := by
      unfold Word.IsWord Word.least Word.greatest at *
      omega
    have runWord : Word.IsWord (times.run.val + 1) := by
      unfold Word.IsWord Word.least Word.greatest at *
      omega
    have one : times.query.val + 1 - times.query.val = 1 := by omega
    simp only [Word.add, Word.sub, Word.fit_of_isWord queryWord, bind, Except.bind, one,
      Word.fit_of_isWord (by decide : Word.IsWord 1), Word.fit_of_isWord runWord, pure,
      Except.pure, Except.map]
    refine ⟨⟨⟨times.query.val + 1, queryWord⟩, ⟨times.run.val + 1, runWord⟩⟩, rfl, ?_, ?_⟩
    · exact ⟨by dsimp only; omega, by unfold minutesPerWeek; dsimp only; omega,
        fun granularFrequency => absurd minute granularFrequency⟩
    · intro _
      exact ⟨queryOnGrid_of_minute minute _, by simp only [Frequency.nextQuery, granular]⟩
  | some g =>
    have upper := inv.upper (fun minute => by
      rw [(Frequency.granularity?_eq_none_iff _).2 minute] at granular
      contradiction)
    have := job.hoursOfLag.le_bound
    unfold Count.bound at this
    -- the moved instant lies in the range, whatever the query was
    have range := (g.increment (Instant.ofMinutes times.query.val) 1).toMinutes_mem
    have stepWord : Word.IsWord
        ((g.increment (Instant.ofMinutes times.query.val) 1).toMinutes - times.query.val) :=
      word_of_natAbs_le (by omega)
    have runWord : Word.IsWord (times.run.val +
        ((g.increment (Instant.ofMinutes times.query.val) 1).toMinutes - times.query.val)) :=
      word_of_natAbs_le (by omega)
    simp only [Word.add, Word.sub, Instant.minutesWord, pure, Except.pure, bind, Except.bind,
      Word.fit_of_isWord stepWord, Word.fit_of_isWord runWord, Except.map]
    refine ⟨⟨(g.increment (Instant.ofMinutes times.query.val) 1).minutesWord, ⟨_, runWord⟩⟩, rfl,
      ⟨?_, ?_, ?_⟩, ?_⟩
    · simp only [Instant.minutesWord]
      omega
    · simp only [Instant.minutesWord, minutesPerWeek]
      omega
    · intro _
      simp only [Instant.minutesWord]
      omega
    · intro onGrid
      have grid := onGrid g granular
      have length := Granularity.bucketLength_pos g (Instant.ofMinutes times.query.val)
      have moved := Granularity.toMinutes_increment_ofMinutes g grid
      refine ⟨fun other otherGranular => ?_, ?_⟩
      · obtain rfl : g = other := Option.some.inj (granular.symm.trans otherGranular)
        simp only [Instant.minutesWord]
        refine ⟨by omega, by omega, ?_⟩
        -- the next start lies in the range, or the move stops at the range's last minute
        by_cases fits : times.query.val + g.bucketLength (Instant.ofMinutes times.query.val) ≤
            Instant.latest.toMinutes
        · rw [moved, Int.min_eq_left fits]
          rcases grid.start with start | last
          · exact Or.inl (Granularity.isStart_add_bucketLength grid start)
          · omega
        · right
          omega
      · simp only [Instant.minutesWord, Frequency.nextQuery, Frequency.stepAt, granular]
        exact moved

theorem runOffset_of_minute {job : Job} (minute : job.frequency = .minute) :
    job.runOffset = 1 := by
  unfold runOffset
  rw [minute]

/-- Rescheduling at each instant of a list keeps the invariant and keeps a query time on the
grid; a job that runs every minute moves its run time one minute per reschedule, and the run
times must stay words. -/
theorem foldlM_reschedule (job : Job) (rest : List Instant) {times : Times}
    (inv : job.TimesInvariant times)
    (noOverflow : job.frequency = .minute → times.run.val + rest.length ≤ Word.greatest) :
    ∃ final : Times, rest.foldlM reschedule (job.setSchedule times) = .ok (job.setSchedule final) ∧
      job.TimesInvariant final ∧
      (job.frequency = .minute → final.run.val = times.run.val + rest.length) ∧
      (job.QueryOnGrid times.query.val → job.QueryOnGrid final.query.val) := by
  induction rest generalizing times with
  | nil => exact ⟨times, rfl, inv, fun _ => by simp, fun grid => grid⟩
  | cons now rest inductionHypothesis =>
    have bound : job.frequency = .minute → times.run.val + 1 ≤ Word.greatest := fun minute => by
      have := noOverflow minute
      simp only [List.length_cons] at this
      omega
    obtain ⟨next, step, nextInv, onGrid⟩ := reschedule_setSchedule job inv bound now
    -- every minute, the query moves one minute and the run with it
    have nextRun : job.frequency = .minute → next.run.val = times.run.val + 1 := fun minute => by
      have nextQuery := (onGrid (queryOnGrid_of_minute minute _)).2
      simp only [Frequency.nextQuery, (Frequency.granularity?_eq_none_iff _).2 minute] at nextQuery
      have := nextInv.gap
      have := inv.gap
      omega
    have nextBound : job.frequency = .minute → next.run.val + rest.length ≤ Word.greatest :=
      fun minute => by
        have := noOverflow minute
        have := nextRun minute
        simp only [List.length_cons] at *
        omega
    obtain ⟨final, run, finalInv, finalRun, finalGrid⟩ := inductionHypothesis nextInv nextBound
    refine ⟨final, ?_, finalInv, fun minute => ?_, fun grid => finalGrid (onGrid grid).1⟩
    · rw [List.foldlM_cons, step]
      exact run
    · rw [finalRun minute, nextRun minute, List.length_cons]
      omega

/-- Every step of a job's lifetime returns and keeps the run the lag and offset after the query;
from a query in the range, the query stays on its bucket grid and moves one frequency step. -/
theorem lifecycle_gap_alignment_step (job : Job) (first : Instant) (rest : List Instant)
    (now : Instant) (noOverflow : job.frequency = .minute →
      job.queryMinutes first + 60 * job.hoursOfLag.val + 1 + (rest.length + 1) ≤ Word.greatest) :
    ∃ times next : Times, job.lifecycle first rest = .ok (job.setSchedule times) ∧
      job.lifecycle first (rest ++ [now]) = .ok (job.setSchedule next) ∧
      times.run.val - times.query.val = 60 * job.hoursOfLag.val + job.runOffset ∧
      (Instant.earliest.toMinutes ≤ job.queryMinutes first →
        (∀ g, job.frequency.granularity? = some g →
          g.intervalEnd (Instant.ofMinutes times.query.val) = times.query.val ∨
            times.query.val = Instant.latest.toMinutes) ∧
        (next.query.val = times.query.val + job.frequency.stepAt times.query.val ∨
          job.frequency ≠ .minute ∧
            Instant.latest.toMinutes < times.query.val + job.frequency.stepAt times.query.val ∧
            next.query.val = Instant.latest.toMinutes)) := by
  have scheduled := timesInvariant_scheduleTimes job first
  have firstRun : job.frequency = .minute →
      (job.scheduleTimes first).run.val = job.queryMinutes first + 60 * job.hoursOfLag.val + 1 :=
    fun minute => by rw [scheduled.gap, runOffset_of_minute minute, query_scheduleTimes]
  obtain ⟨times, run, inv, finalRun, finalGrid⟩ := foldlM_reschedule job rest scheduled
    fun minute => by
      have := noOverflow minute
      have := firstRun minute
      omega
  obtain ⟨next, step, _, nextGrid⟩ := reschedule_setSchedule job inv (fun minute => by
    have := noOverflow minute
    have := firstRun minute
    have := finalRun minute
    omega) now
  refine ⟨times, next, run, ?_, by have := inv.gap; omega, fun inRange => ⟨?_, ?_⟩⟩
  · unfold lifecycle
    rw [List.foldlM_append, run]
    simp only [bind, Except.bind, List.foldlM_cons, List.foldlM_nil, step]
    rfl
  · intro g granular
    have grid := finalGrid (queryOnGrid_scheduleTimes job first inRange) g granular
    rcases grid.start with start | last
    · exact Or.inl (Granularity.intervalEnd_ofMinutes_of_isStart grid start)
    · exact Or.inr last
  · rw [(nextGrid (finalGrid (queryOnGrid_scheduleTimes job first inRange))).2]
    exact Frequency.nextQuery_cases job.frequency times.query.val

/-- A daily job scheduled and rescheduled at the range's last instant. -/
theorem lifecycle_gap_alignment_step_daily_latest :
    ((create "job" .day .day).frequency = .minute →
        (create "job" .day .day).queryMinutes Instant.latest +
          60 * (create "job" .day .day).hoursOfLag.val + 1 + ([Instant.latest].length + 1) ≤
            Word.greatest) ∧
      ∃ times next : Times,
        (create "job" .day .day).lifecycle Instant.latest [Instant.latest] =
          .ok ((create "job" .day .day).setSchedule times) ∧
        (create "job" .day .day).lifecycle Instant.latest ([Instant.latest] ++ [Instant.latest]) =
          .ok ((create "job" .day .day).setSchedule next) ∧
        times.run.val - times.query.val =
          60 * (create "job" .day .day).hoursOfLag.val + (create "job" .day .day).runOffset ∧
        (Instant.earliest.toMinutes ≤ (create "job" .day .day).queryMinutes Instant.latest →
          (∀ g, (create "job" .day .day).frequency.granularity? = some g →
            g.intervalEnd (Instant.ofMinutes times.query.val) = times.query.val ∨
              times.query.val = Instant.latest.toMinutes) ∧
          (next.query.val = times.query.val +
              (create "job" .day .day).frequency.stepAt times.query.val ∨
            (create "job" .day .day).frequency ≠ .minute ∧
              Instant.latest.toMinutes <
                times.query.val + (create "job" .day .day).frequency.stepAt times.query.val ∧
              next.query.val = Instant.latest.toMinutes)) :=
  have noOverflow : (create "job" .day .day).frequency = .minute →
      (create "job" .day .day).queryMinutes Instant.latest +
        60 * (create "job" .day .day).hoursOfLag.val + 1 + ([Instant.latest].length + 1) ≤
          Word.greatest :=
    fun minute => absurd minute (by decide)
  ⟨noOverflow, lifecycle_gap_alignment_step (create "job" .day .day) Instant.latest
    [Instant.latest] Instant.latest noOverflow⟩

/-- A daily job scheduled at the range's last instant queries the day that holds it; on the
reschedule the next day lies beyond the range, and the query time moves by 1439 minutes, to the
range's last minute, not by a day. -/
theorem lifecycle_daily_latest_short_step :
    ∃ times next : Times,
      (create "job" .day .day).lifecycle Instant.latest [] =
        .ok ((create "job" .day .day).setSchedule times) ∧
      (create "job" .day .day).lifecycle Instant.latest [Instant.latest] =
        .ok ((create "job" .day .day).setSchedule next) ∧
      next.query.val - times.query.val = 1439 := by
  have query : (create "job" .day .day).queryMinutes Instant.latest = 136837779840 := by
    decide +kernel
  have onGrid := queryOnGrid_scheduleTimes (create "job" .day .day) Instant.latest
    (by rw [query, Instant.earliest_toMinutes]; decide)
  obtain ⟨next, step, _, nextGrid⟩ :=
    reschedule_setSchedule (create "job" .day .day)
      (timesInvariant_scheduleTimes (create "job" .day .day) Instant.latest)
      (fun minute => absurd minute (by decide)) Instant.latest
  have nextQuery := (nextGrid onGrid).2
  refine ⟨(create "job" .day .day).scheduleTimes Instant.latest, next, rfl, ?_, ?_⟩
  · unfold lifecycle
    rw [List.foldlM_cons, step]
    rfl
  · have granular : (create "job" .day .day).frequency.granularity? = some .day := by
      decide +kernel
    simp only [Frequency.nextQuery, Frequency.stepAt, granular, Granularity.bucketLength,
      Granularity.minutesPerUnit, query_scheduleTimes, query, Instant.latest_toMinutes] at nextQuery
    rw [nextQuery, query_scheduleTimes, query]
    decide

end Job

end Cadence
