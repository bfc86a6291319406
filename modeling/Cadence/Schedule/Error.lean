import Cadence.Config.Error
/-!
# Scheduling errors

Planning a window fails when configuration is missing or bad, when a job's granularity range
is zero, or when a backfill spans less than one bucket.
-/

namespace Cadence

/-- Why a window cannot be planned. -/
inductive ScheduleError where
  /-- Configuration is missing or does not read. -/
  | config (error : ConfigError)
  /-- A backfill of `span` minutes is shorter than one bucket of `minimum` minutes. -/
  | backfillTooShort (granularity : Granularity) (span minimum : Int)
  /-- The job's granularity range is zero. -/
  | invalidGranularityRange
  deriving DecidableEq, Repr

/-- The wording; a configuration error keeps its own. -/
def ScheduleError.message : ScheduleError → String
  | .config error => error.message
  | .backfillTooShort g span minimum =>
    "backfill spans " ++ toString span ++ " minutes, under one " ++ g.name ++ " bucket (" ++
      toString minimum ++ " minutes)"
  | .invalidGranularityRange => "granularity range must be at least 1"

end Cadence
