import Cadence.Schedule.Job
/-!
# Query and run times

A job reads the data up to the start of the frequency's bucket that holds the present
instant less the job's lag, and runs that lag later plus a fixed offset within the hour:
one minute for jobs that run every minute, the identifier's magnitude modulo 60 for stored
jobs, and half an hour otherwise. Rescheduling moves the query time one frequency unit
forward and the run time by the same amount, in checked word arithmetic.
-/

namespace Cadence.Job

/-- Minutes between the lagged query time and the run. -/
def runOffset (job : Job) : Int :=
  match job.frequency, job.id with
  | .minute, _ => 1
  | _, some id => ((id.val.natAbs % 60 : Nat) : Int)
  | _, none => 30

/-- The offset is a minute of the hour. -/
theorem runOffset_bounds (job : Job) : 0 ≤ job.runOffset ∧ job.runOffset < 60 := by
  unfold runOffset
  split <;> omega

/-- The present instant less the job's lag. -/
def lagged (job : Job) (now : Instant) : Instant :=
  Granularity.hour.decrement now job.hoursOfLag.val

/-- The right edge of the data a run decided at `now` reads: the start of the frequency's
bucket that holds the lagged instant, or its minute for a job that runs every minute. -/
def queryMinutes (job : Job) (now : Instant) : Int :=
  match job.frequency.granularity? with
  | some g => g.intervalEnd (job.lagged now)
  | none => (job.lagged now).toMinutes

/-- The query minute lies within a week of the minute counts of the supported range. -/
theorem queryMinutes_bounds (job : Job) (now : Instant) :
    -138910030560 ≤ job.queryMinutes now ∧ job.queryMinutes now ≤ 136837781279 := by
  unfold queryMinutes
  split
  · exact Granularity.intervalEnd_bounds _ _
  · have := (job.lagged now).toMinutes_bounds
    omega

/-- The first scheduling decision at `now`: the query minute, and the run the lag and the
offset later. Both are words, as the query minute lies within the supported range and the lag
is a count of hours. -/
def scheduleTimes (job : Job) (now : Instant) : Times :=
  let query := job.queryMinutes now
  have hq := job.queryMinutes_bounds now
  have ho := job.runOffset_bounds
  have hl := job.hoursOfLag.le_bound
  ⟨⟨query, by unfold Word.IsWord Word.least Word.greatest; omega⟩,
    ⟨query + job.hoursOfLag.val * minutesPerHour + job.runOffset, by
      unfold Word.IsWord Word.least Word.greatest minutesPerHour
      unfold Count.bound at hl
      omega⟩⟩

/-- The next scheduling decision. A job without both times is scheduled afresh; otherwise the
query time moves one frequency unit (a calendar unit for the granular frequencies, a minute
otherwise) and the run time moves as much. Each sum and difference is checked. -/
def rescheduleTimes (job : Job) (now : Instant) : Except Fault Times :=
  match job.effectiveQueryTime, job.effectiveRunTime with
  | some query, some run => do
    let next ← match job.frequency.granularity? with
      | some g => pure (g.increment (Instant.ofMinutes query.val) 1).minutesWord
      | none => Word.add query ⟨1, by decide⟩
    let step ← Word.sub next query
    let moved ← Word.add run step
    pure ⟨next, moved⟩
  | _, _ => pure (job.scheduleTimes now)

/-- Whether the job has a run time and it has come. -/
def isDue (job : Job) (now : Instant) : Bool :=
  match job.effectiveRunTime with
  | some run => decide (run.val ≤ now.toMinutes)
  | none => false

end Cadence.Job
