import Cadence.Granularity
/-!
# Run frequencies

A job runs every minute, hour, day, week or month. Every frequency but the minute has the
granularity of the same name, whose buckets its runs follow.
-/

namespace Cadence

/-- How often a job runs. -/
inductive Frequency where
  | minute | hour | day | week | month
  deriving DecidableEq, Repr

namespace Frequency

/-- Every frequency, from the most frequent. -/
def all : List Frequency := [minute, hour, day, week, month]

/-- The canonical lowercase name. -/
def name : Frequency → String
  | minute => "minute"
  | hour => "hour"
  | day => "day"
  | week => "week"
  | month => "month"

/-- Minutes between runs; a month counts as 43800 minutes. -/
def minutesPerUnit : Frequency → Nat
  | minute => 1
  | hour => 60
  | day => 1440
  | week => 10080
  | month => 43800

/-- Frequencies by their names. -/
def names : Vocabulary Frequency where
  all := all
  name := name
  mem_all f := by cases f <;> decide
  name_injective a b := by cases a <;> cases b <;> decide

/-- The frequency whose name equals `text` up to ASCII case. -/
def ofName? (text : String) : Option Frequency := names.findIgnoringCase text

/-- Decodes a name that may be absent; absence is no error. -/
def ofOptionalName? (text : Option String) : Option Frequency := text.bind ofName?

/-- Decodes a name, refusing one that matches no frequency. -/
def parse (text : String) : Except UnknownToken Frequency := names.parse "trigger" text

/-- The granularity of the same name; the minute has none. -/
def granularity? (f : Frequency) : Option Granularity := Granularity.ofName? f.name

/-- The frequency that runs once per bucket of `g`. -/
def ofGranularity : Granularity → Frequency
  | .hour => hour
  | .day => day
  | .week => week
  | .month => month

end Frequency

end Cadence
