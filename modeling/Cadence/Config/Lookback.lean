import Cadence.Config.Error
import Cadence.Text.Blank
import Cadence.Count
/-!
# Lookback counts

A lookback holds, per granularity, how many buckets a baseline spans, or nothing. The
defaults are four weeks of hours, four weeks of days, twelve weeks and six months. A lookup
(such as the process environment) overrides counts key by key; each value is trimmed of
blanks and must be a positive unsigned 32-bit numeral.
-/

namespace Cadence

/-- Baseline bucket counts per granularity; `none` when not configured. -/
structure Lookback where
  /-- Count of hour buckets. -/
  hours : Option Count
  /-- Count of day buckets. -/
  days : Option Count
  /-- Count of week buckets. -/
  weeks : Option Count
  /-- Count of month buckets. -/
  months : Option Count
  deriving DecidableEq, Repr

namespace Lookback

/-- 672 hours, 28 days, 12 weeks and 6 months. -/
def defaults : Lookback :=
  ⟨some ⟨672, by decide⟩, some ⟨28, by decide⟩, some ⟨12, by decide⟩, some ⟨6, by decide⟩⟩

/-- No count configured. -/
def empty : Lookback := ⟨none, none, none, none⟩

/-- The count configured for `g`. -/
def get (l : Lookback) (g : Granularity) : Option Count :=
  match g with
  | .hour => l.hours
  | .day => l.days
  | .week => l.weeks
  | .month => l.months

/-- The lookback with `count` configured for `g` and the other counts kept. -/
def set (l : Lookback) (g : Granularity) (count : Count) : Lookback :=
  match g with
  | .hour => { l with hours := some count }
  | .day => { l with days := some count }
  | .week => { l with weeks := some count }
  | .month => { l with months := some count }

/-- The count for `g`, or the error that none is configured. -/
def count (l : Lookback) (g : Granularity) : Except ConfigError Count :=
  match l.get g with
  | some n => .ok n
  | none => .error (.missingLookback g)

/-- Succeeds when every granularity has a count; else names the first, from the finest. -/
def validate (l : Lookback) : Except ConfigError Unit :=
  Granularity.all.forM fun g => (l.count g).map fun _ => ()

/-- The lookup key that overrides the count of `g`. -/
def key : Granularity → String
  | .hour => "WATCHTOWER_INTERVAL_HOURS"
  | .day => "WATCHTOWER_INTERVAL_DAYS"
  | .week => "WATCHTOWER_INTERVAL_WEEKS"
  | .month => "WATCHTOWER_INTERVAL_MONTHS"

/-- Reads the value `raw` found under `key`: trimmed of blanks, an unsigned 32-bit numeral,
and not zero. -/
def parseCount (key raw : String) : Except ConfigError Count :=
  match h : Text.parseUnsigned Count.bound (Text.trimBlank raw) with
  | .error e => .error (.invalid key raw (.numeral e))
  | .ok 0 => .error (.invalid key raw .notPositive)
  | .ok (n + 1) => .ok ⟨n + 1, Text.parseUnsigned_le h⟩

/-- Overrides the counts of `l` from `lookup`, granularity by granularity from the finest;
the first value that does not read is the error. -/
def override (lookup : String → Option String) (l : Lookback) :
    List Granularity → Except ConfigError Lookback
  | [] => .ok l
  | g :: rest =>
    match lookup (key g) with
    | none => override lookup l rest
    | some raw => do
      let n ← parseCount (key g) raw
      override lookup (l.set g n) rest

/-- The defaults, overridden from `lookup`. -/
def ofLookup (lookup : String → Option String) : Except ConfigError Lookback :=
  override lookup defaults Granularity.all

end Lookback

/-- The lookback count of `g` in `l`. -/
def Granularity.lookbackCount (g : Granularity) (l : Lookback) : Except ConfigError Count :=
  l.count g

end Cadence
