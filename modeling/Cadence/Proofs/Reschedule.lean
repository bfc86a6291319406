import Cadence.Proofs.Moves
import Cadence.Proofs.Lifecycle

/-!
# Rescheduling from any stored times

The query and run times a job stores are words of any value: a stored record may hold times
that no schedule of this library produces. Rescheduling moves the query time on and the run
time by the same step, each sum a checked word operation. A job that runs every minute moves one
minute. A granular job reads its query time as an instant, which saturates to the range, moves
that instant one bucket on, which saturates again, and takes the minute it lands in.

So the step is exact and never overflows for a granular job, and the run time follows the query
time whenever both sums are words, the only failure being an overflow of a sum. The query time
moves forward from every minute before the range's last one, those before the range included; at
the last minute it stays, and from a minute beyond the range it moves back to the last minute.

Main statement: `Job.rescheduleTimes_shift_progress`.
-/

namespace Cadence

namespace Frequency

/-- The query time that a reschedule moves a stored query time to, before any sum is checked: a
minute on, or for a granular frequency the minute one bucket after the instant of the query
time. -/
def rescheduledQuery (f : Frequency) (query : Int) : Int :=
  match f.granularity? with
  | none => query + 1
  | some g => (g.increment (Instant.ofMinutes query) 1).toMinutes

end Frequency

namespace Instant

theorem ofMinutes_le_latest (minutes : Int) : ofMinutes minutes ≤ latest := by
  unfold ofMinutes
  rw [clamp_eq_ofPartsSaturating]
  exact ofPartsSaturating_le_latest _ _

end Instant

namespace Granularity

/-- One bucket after the range's first instant lies within a month of it. -/
theorem toMinutes_increment_earliest_le (g : Granularity) :
    (g.increment Instant.earliest 1).toMinutes ≤ Instant.earliest.toMinutes + 44640 := by
  cases g <;> decide

/-- One bucket on from the instant of any minute count lands in the range; in a later minute
while the count lies before the range's last minute, within a month of the range's start when
the count lies before the range, and in the last minute from there on. -/
theorem increment_ofMinutes_one (g : Granularity) (query : Int) :
    Instant.earliest.toMinutes ≤ (g.increment (Instant.ofMinutes query) 1).toMinutes ∧
    (g.increment (Instant.ofMinutes query) 1).toMinutes ≤ Instant.latest.toMinutes ∧
    (query < Instant.earliest.toMinutes →
      (g.increment (Instant.ofMinutes query) 1).toMinutes ≤ Instant.earliest.toMinutes + 44640) ∧
    (query < Instant.latest.toMinutes → query < (g.increment (Instant.ofMinutes query) 1).toMinutes) ∧
    (Instant.latest.toMinutes ≤ query →
      (g.increment (Instant.ofMinutes query) 1).toMinutes = Instant.latest.toMinutes) := by
  have range := (g.increment (Instant.ofMinutes query) 1).toMinutes_mem
  have count := Instant.toMinutes_ofMinutes query
  have latestCount := Instant.latest_toMinutes
  unfold Minutes.saturate at count
  -- one bucket on is a later minute, or the move saturated at the latest instant
  have onward := lt_toMinutes_increment_one g (Instant.ofMinutes_le_latest query)
  refine ⟨range.1, range.2, fun before => ?_, fun before => ?_, fun after => ?_⟩
  · rw [Instant.ofMinutes_of_lt before]
    exact toMinutes_increment_earliest_le g
  · rcases onward with later | saturated
    · omega
    · rw [saturated]
      omega
  · rcases onward with later | saturated
    · omega
    · rw [saturated]

end Granularity

namespace Job

variable (job : Job) (now : Instant) (query run : Word)

/-- The step of a granular job's query time is a word, whatever the stored query time. -/
theorem isWord_rescheduled_step {g : Granularity} (granular : job.frequency.granularity? = some g) :
    Word.IsWord (job.frequency.rescheduledQuery query.val - query.val) := by
  have moved := g.increment_ofMinutes_one query.val
  have := Instant.earliest_toMinutes
  have := Instant.latest_toMinutes
  have := query.bounds
  simp only [Frequency.rescheduledQuery, granular]
  unfold Word.IsWord Word.least Word.greatest
  -- before the range the move lands near its start, beyond it at its end
  omega

/-- A reschedule of stored times moves the query time to `rescheduledQuery` and the run time by
the same step, failing with an overflow exactly when one of the sums is not a word. -/
theorem rescheduleTimes_setSchedule :
    (job.setSchedule ⟨query, run⟩).rescheduleTimes now =
      if h : Word.IsWord (job.frequency.rescheduledQuery query.val) ∧
          Word.IsWord (run.val + (job.frequency.rescheduledQuery query.val - query.val)) then
        .ok ⟨⟨_, h.1⟩, ⟨_, h.2⟩⟩
      else .error .addOverflow := by
  simp only [rescheduleTimes, setSchedule]
  cases granular : job.frequency.granularity? with
  | none =>
    simp only [Frequency.rescheduledQuery, granular]
    by_cases next : Word.IsWord (query.val + 1)
    · have step : Word.IsWord (query.val + 1 - query.val) := by
        unfold Word.IsWord Word.least Word.greatest
        omega
      simp only [Word.add, Word.sub, Word.fit_of_isWord next, Word.fit_of_isWord step, bind,
        Except.bind]
      by_cases moved : Word.IsWord (run.val + (query.val + 1 - query.val))
      · simp only [Word.fit_of_isWord moved, dif_pos (And.intro next moved), pure, Except.pure]
      · simp only [Word.fit_of_not_isWord moved, dif_neg (not_and_of_not_right _ moved)]
    · simp only [Word.add, Word.fit_of_not_isWord next, bind, Except.bind,
        dif_neg (not_and_of_not_left _ next)]
  | some g =>
    have step := job.isWord_rescheduled_step query granular
    simp only [Frequency.rescheduledQuery, granular] at step ⊢
    have next : Word.IsWord (g.increment (Instant.ofMinutes query.val) 1).toMinutes :=
      (g.increment (Instant.ofMinutes query.val) 1).minutesWord.isWord
    simp only [Word.sub, Word.add, Instant.minutesWord, Word.fit_of_isWord step, bind, Except.bind,
      pure, Except.pure]
    by_cases moved : Word.IsWord
        (run.val + ((g.increment (Instant.ofMinutes query.val) 1).toMinutes - query.val))
    · simp only [Word.fit_of_isWord moved, dif_pos (And.intro next moved)]
    · simp only [Word.fit_of_not_isWord moved, dif_neg (not_and_of_not_right _ moved)]

/-- Rescheduling moves the query time one frequency step and the run time with it, or overflows;
a granular query moves forward exactly while it lies before the range's last minute. -/
theorem rescheduleTimes_shift_progress (job : Job) (now : Instant) (query run : Word) :
    ((job.setSchedule ⟨query, run⟩).rescheduleTimes now = .error .addOverflow ∨
      ∃ times : Times, (job.setSchedule ⟨query, run⟩).rescheduleTimes now = .ok times ∧
        times.query.val = job.frequency.rescheduledQuery query.val ∧
        times.run.val = run.val + (job.frequency.rescheduledQuery query.val - query.val)) ∧
    ((∃ times, (job.setSchedule ⟨query, run⟩).rescheduleTimes now = .ok times) ↔
      Word.IsWord (job.frequency.rescheduledQuery query.val) ∧
        Word.IsWord (run.val + (job.frequency.rescheduledQuery query.val - query.val))) ∧
    (∀ times, (job.setSchedule ⟨query, run⟩).rescheduleTimes now = .ok times →
      times.run.val - times.query.val = run.val - query.val) ∧
    (job.frequency = .minute → job.frequency.rescheduledQuery query.val = query.val + 1) ∧
    (job.frequency ≠ .minute →
      Word.IsWord (job.frequency.rescheduledQuery query.val - query.val) ∧
      (query.val < job.frequency.rescheduledQuery query.val ↔
        query.val < Instant.latest.toMinutes) ∧
      (Instant.latest.toMinutes ≤ query.val →
        job.frequency.rescheduledQuery query.val = Instant.latest.toMinutes)) := by
  have outcome := job.rescheduleTimes_setSchedule now query run
  refine ⟨?_, ?_, ?_, fun minute => ?_, fun granularFrequency => ?_⟩
  · rw [outcome]
    split
    · exact Or.inr ⟨_, rfl, rfl, rfl⟩
    · exact Or.inl rfl
  · rw [outcome]
    split
    · rename_i sums
      exact iff_of_true ⟨_, rfl⟩ sums
    · rename_i sums
      refine iff_of_false ?_ sums
      rintro ⟨_, failed⟩
      cases failed
  · intro times returned
    rw [outcome] at returned
    split at returned
    · cases returned
      dsimp only
      omega
    · cases returned
  · simp only [Frequency.rescheduledQuery, (Frequency.granularity?_eq_none_iff _).2 minute]
  · obtain ⟨g, granular⟩ := Option.ne_none_iff_exists'.1
      (fun none => granularFrequency ((Frequency.granularity?_eq_none_iff _).1 none))
    have moved := g.increment_ofMinutes_one query.val
    refine ⟨job.isWord_rescheduled_step query granular, ?_, ?_⟩ <;>
      simp only [Frequency.rescheduledQuery, granular]
    · exact ⟨fun later => by omega, moved.2.2.2.1⟩
    · exact moved.2.2.2.2

/-- A daily job whose stored query time lies one minute beyond the range: its instant saturates to
the range's last instant, one day on saturates there again, and the reschedule moves the query
time back a minute, and the run time with it. -/
theorem rescheduleTimes_daily_beyond_range :
    ((create "job" .day .day).setSchedule
        ⟨⟨136837781280, by decide⟩, ⟨136837781310, by decide⟩⟩).rescheduleTimes Instant.earliest =
      .ok ⟨⟨136837781279, by decide⟩, ⟨136837781309, by decide⟩⟩ := by
  decide +kernel

end Job

end Cadence
