import Cadence.Schedule.Window
import Cadence.Schedule.Timeline
import Cadence.Document.Forms
import Cadence.Time.Rfc3339
/-!
# Analysis plans

A plan tells, for a granularity and the present instant, where the current bucket starts,
where the next one starts, which window the next analysis reads and how far a timeline
looks ahead.
-/

namespace Cadence

/-- The analysis plan of a granularity at an instant. -/
structure Plan where
  /-- The granularity planned for. -/
  granularity : Granularity
  /-- The instant planned at. -/
  now : Instant
  /-- The start of the bucket holding `now`. -/
  intervalEnd : Instant
  /-- The start of the bucket after it. -/
  nextBoundary : Instant
  /-- The window ending at `intervalEnd`. -/
  window : Window
  /-- How far a timeline looks ahead. -/
  lookForwardUntil : Instant

namespace Plan

/-- The plan of `g` at `now`, with a window of `intervals` buckets, else the lookback count. -/
def make (g : Granularity) (intervals : Option Count) (lookback : Lookback) (now : Instant) :
    Except ConfigError Plan := do
  let intervalEnd := Instant.ofMinutes (g.intervalEnd now)
  let window ← Window.endingAt g intervalEnd intervals lookback
  return { granularity := g, now, intervalEnd,
           nextBoundary := Instant.ofMinutes (g.nextBoundary now), window,
           lookForwardUntil := g.lookForwardUntil now }

/-- The plan as a document, instants in RFC 3339 form. -/
def toDocument (p : Plan) : Document :=
  .map [("granularity", p.granularity.toDocument), ("period", .text p.granularity.periodToken),
    ("now", .text p.now.rfc3339), ("interval_end", .text p.intervalEnd.rfc3339),
    ("next_boundary", .text p.nextBoundary.rfc3339),
    ("window", .map [("granularity", p.window.granularity.toDocument),
      ("start", .text p.window.startsAt.rfc3339), ("end", .text p.window.endsAt.rfc3339),
      ("intervals", .ofNat p.window.intervals.val)]),
    ("look_forward_until", .text p.lookForwardUntil.rfc3339)]

end Plan

end Cadence
