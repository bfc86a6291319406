import Cadence.Frequency
import Cadence.JobStatus
import Cadence.Word
import Cadence.Count
/-!
# Scheduled jobs

A job names the data it analyses (granularity, how many buckets per point, how far back),
how often it runs, and how many hours its data lags. Once scheduled it records the right
edge of the data its next run reads (`effectiveQueryTime`) and when that run starts
(`effectiveRunTime`), both in epoch minutes.
-/

namespace Cadence

/-- A job of the scheduler. -/
structure Job where
  /-- The identifier, once the job is stored. -/
  id : Option Word
  /-- A name for people. -/
  name : String
  /-- How often the job runs. -/
  frequency : Frequency
  /-- The size of the buckets the job analyses. -/
  granularity : Granularity
  /-- Buckets per analysed point. -/
  granularityRange : Count
  /-- Hours by which the job's data lags. -/
  hoursOfLag : Count
  /-- Points in the baseline, when the job fixes it. -/
  timeseriesRange : Option Count
  /-- The job's state. -/
  status : JobStatus
  /-- Right edge of the data the next run reads, in epoch minutes. -/
  effectiveQueryTime : Option Word
  /-- Start of the next run, in epoch minutes. -/
  effectiveRunTime : Option Word
  deriving DecidableEq, Repr

/-- The query and run minutes of one scheduling decision. -/
structure Times where
  /-- Right edge of the data the run reads, in epoch minutes. -/
  query : Word
  /-- Start of the run, in epoch minutes. -/
  run : Word
  deriving DecidableEq, Repr

namespace Job

/-- A new job: no identifier, one bucket per point, no lag, no fixed baseline, created and
not scheduled. -/
def create (name : String) (frequency : Frequency) (granularity : Granularity) : Job :=
  { id := none, name, frequency, granularity, granularityRange := .one, hoursOfLag := .zero,
    timeseriesRange := none, status := .created, effectiveQueryTime := none,
    effectiveRunTime := none }

/-- The job with both times of `times` recorded. -/
def setSchedule (job : Job) (times : Times) : Job :=
  { job with effectiveQueryTime := some times.query, effectiveRunTime := some times.run }

end Job

end Cadence
