import Cadence.Schedule.Job
/-!
# Timelines of future runs

A timeline shows, per job, the run instants that fall in a span of seconds: the job's run
time and every whole bucket after it, from the first at or after the span's start to the
last before its end. A job with no run in the span shows one hidden point at the end, so that
no series is empty.
-/

namespace Cadence

/-- A point of a timeline, in seconds from the epoch. -/
structure Point where
  /-- Seconds from the epoch. -/
  timestamp : Int
  /-- Whether the point is a run to show, not a placeholder. -/
  display : Bool
  deriving DecidableEq, Repr

/-- The run points of one job. -/
structure Series where
  /-- The job's identifier. -/
  id : Option Word
  /-- The job's name. -/
  name : String
  /-- The points, in time order. -/
  points : List Point
  deriving DecidableEq, Repr

/-- How far ahead a timeline of `g` looks from `now`: `g.lookForwardPeriods` buckets. -/
def Granularity.lookForwardUntil (g : Granularity) (now : Instant) : Instant :=
  g.increment now g.lookForwardPeriods

/-- The first of `first`, `first + step`, … that is at least `start`, for a positive step. -/
def firstAtOrAfter (first start step : Int) : Int :=
  if first < start then first + (start - first + step - 1) / step * step else first

/-- The visible points `first`, `first + step`, … before `finish`, for a positive step. -/
def visiblePoints (first finish step : Int) : List Point :=
  (List.range ((finish - first + step - 1) / step).toNat).map fun (k : Nat) =>
    ⟨first + (k : Int) * step, true⟩

namespace Job

/-- The job's run instants in `[start, finish)`, in seconds: the run time and whole buckets
of the job's granularity after it; a single hidden point at `finish` when there is none. As
`finish` is a word, so is every point before it. -/
def runPoints (job : Job) (start finish : Word) : List Point :=
  match job.effectiveRunTime with
  | none => [⟨finish.val, false⟩]
  | some run =>
    let step : Int := job.granularity.minutesPerUnit * 60
    let first := firstAtOrAfter (run.val * 60) start.val step
    if first < finish.val then visiblePoints first finish.val step else [⟨finish.val, false⟩]

end Job

/-- One series per job, in order, over the seconds from `now` to the look-ahead of
`lookForward`. -/
def timeline (jobs : List Job) (now : Instant) (lookForward : Granularity) : List Series :=
  let start := now.secondsWord
  let finish := (lookForward.lookForwardUntil now).secondsWord
  jobs.map fun job => ⟨job.id, job.name, job.runPoints start finish⟩

end Cadence
