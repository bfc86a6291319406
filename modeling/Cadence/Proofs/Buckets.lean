import Cadence.Proofs.Clock
import Cadence.Granularity

/-!
# The buckets of a granularity

The minutes of the calendar are cut into buckets: whole hours, days from midnight, weeks from
Monday midnight, and calendar months from midnight on the first. `Granularity.IsStart` says
which minute counts start a bucket, in the calendar's own terms, and this module shows that
`intervalEnd` and `nextBoundary` find the bucket of an instant: the last start at or before its
minute and the first start after it.

Every bucket start at or before the last minute of the supported range is an integer the
schedules can compute, but the start of the month after December of the last year is not: the
move by one month saturates, and `nextBoundary` gives the range's last minute instead.
At the other end the range starts on a Thursday, so the week of its first four days starts
before it and reads back as the range's first instant (`Granularity.intervalEnd_week_before_range`).

Main statements: `Granularity.isLastStart_intervalEnd` and `Granularity.isNextStart_nextBoundary`
(the bucket of an instant), the re-flooring law `Granularity.intervalEnd_ofMinutes_intervalEnd`,
and `Granularity.IsNextStart.le_iff`, which reads a passed boundary as a later bucket.
-/

namespace Cadence

namespace Minutes

/-- The checked floor agrees with the exact one when the minute count, the unit and the anchor
are small enough for every step to stay a word. -/
theorem floorChecked_eq_floor (minutes unit anchor : Word) (unitPos : 0 < unit.val)
    (unitSmall : unit.val ≤ 2 ^ 20) (anchorSmall : anchor.val.natAbs ≤ 2 ^ 20)
    (minutesSmall : minutes.val.natAbs ≤ 2 ^ 40) :
    ∃ floored : Word, floorChecked minutes unit anchor = .ok floored ∧
      floored.val = floor minutes.val unit.val anchor.val := by
  -- Each intermediate value is bounded by the offset plus one unit, far inside a word.
  have lower := Int.ediv_mul_le (minutes.val - anchor.val) (Int.ne_of_gt unitPos)
  have upper := Int.lt_ediv_add_one_mul_self (minutes.val - anchor.val) unitPos
  rw [Int.add_mul, Int.one_mul] at upper
  have quotient : ((minutes.val - anchor.val) / unit.val).natAbs ≤
      ((minutes.val - anchor.val) / unit.val * unit.val).natAbs := by
    rw [Int.natAbs_mul]
    exact Nat.le_mul_of_pos_right _ (by omega)
  have word : ∀ x : Int, x.natAbs ≤ 2 ^ 62 → Word.IsWord x := by
    intro x small
    unfold Word.IsWord Word.least Word.greatest
    omega
  refine ⟨⟨floor minutes.val unit.val anchor.val, word _ (by unfold floor; omega)⟩, ?_, rfl⟩
  unfold floorChecked
  simp only [Word.sub, Word.divEuclid, Word.mul, Word.add, if_neg (Int.ne_of_gt unitPos),
    Word.fit_of_isWord (word _ (by omega) : Word.IsWord (minutes.val - anchor.val)), bind,
    Except.bind]
  simp only [Word.fit_of_isWord (word _ (by omega) : Word.IsWord ((minutes.val - anchor.val) / unit.val)),
    Word.fit_of_isWord (word _ (by omega) :
      Word.IsWord ((minutes.val - anchor.val) / unit.val * unit.val)),
    Word.fit_of_isWord (word _ (by omega) :
      Word.IsWord (anchor.val + (minutes.val - anchor.val) / unit.val * unit.val))]
  rfl

/-! ### Fixed cadences -/

section FixedCadence

variable {unit : Int}

/-- Two counts a whole number of units from the anchor and less than a unit apart are equal. -/
theorem eq_of_aligned {anchor x y : Int} (alignedX : (x - anchor) % unit = 0)
    (alignedY : (y - anchor) % unit = 0) (lower : x ≤ y) (upper : y < x + unit) : x = y := by
  have apart : unit ∣ (y - anchor) - (x - anchor) :=
    Int.dvd_sub (Int.dvd_of_emod_eq_zero alignedY) (Int.dvd_of_emod_eq_zero alignedX)
  have zero := Int.eq_zero_of_dvd_of_natAbs_lt_natAbs apart (by omega)
  omega

theorem floor_aligned (minutes anchor : Int) : (floor minutes unit anchor - anchor) % unit = 0 := by
  unfold floor
  rw [show anchor + (minutes - anchor) / unit * unit - anchor = (minutes - anchor) / unit * unit by
    omega, Int.mul_emod_left]

variable (pos : 0 < unit)
include pos

theorem floor_le (minutes anchor : Int) : floor minutes unit anchor ≤ minutes := by
  have := Int.ediv_mul_le (minutes - anchor) (Int.ne_of_gt pos)
  unfold floor
  omega

theorem lt_floor_add (minutes anchor : Int) : minutes < floor minutes unit anchor + unit := by
  have := Int.lt_ediv_add_one_mul_self (minutes - anchor) pos
  rw [Int.add_mul, Int.one_mul] at this
  unfold floor
  omega

/-- The floor is the last aligned count at or before the minute count. -/
theorem le_floor_of_aligned {minutes anchor x : Int} (aligned : (x - anchor) % unit = 0)
    (before : x ≤ minutes) : x ≤ floor minutes unit anchor := by
  by_contra after
  have above := lt_floor_add pos minutes anchor
  have := eq_of_aligned (floor_aligned minutes anchor) aligned (by omega) (by omega)
  omega

/-- One unit after the floor is the first aligned count after the minute count. -/
theorem floor_add_le_of_aligned {minutes anchor x : Int} (aligned : (x - anchor) % unit = 0)
    (after : minutes < x) : floor minutes unit anchor + unit ≤ x := by
  by_contra before
  have below := floor_le pos minutes anchor
  have := eq_of_aligned (floor_aligned minutes anchor) aligned (by omega) (by omega)
  omega

end FixedCadence

end Minutes

namespace Granularity

/-- Whether the minute count `start` is the first minute of a bucket of `g`: a whole hour, a
midnight, a Monday midnight, or midnight on the first day of a month. -/
def IsStart : Granularity → Int → Prop
  | hour, start => start % 60 = 0
  | day, start => start % 1440 = 0
  | week, start => start % 1440 = 0 ∧ Civil.Weekday.ofDays (start / 1440) = .monday
  | month, start => start % 1440 = 0 ∧ (Civil.Date.ofDays (start / 1440)).day = 1

/-- `start` is the last bucket start of `g` at or before the minute count `minutes`. -/
structure IsLastStart (g : Granularity) (minutes start : Int) : Prop where
  isStart : g.IsStart start
  le : start ≤ minutes
  greatest : ∀ other, g.IsStart other → other ≤ minutes → other ≤ start

/-- `next` is the first bucket start of `g` after the minute count `minutes`. -/
structure IsNextStart (g : Granularity) (minutes next : Int) : Prop where
  isStart : g.IsStart next
  lt : minutes < next
  least : ∀ other, g.IsStart other → minutes < other → next ≤ other

/-- The length in minutes of the bucket of `g` that holds `t`: a fixed number of minutes, or for
months the length of the instant's calendar month. -/
def bucketLength (g : Granularity) (t : Instant) : Int :=
  match g with
  | month => 1440 * Civil.monthLength t.date.year t.date.month
  | _ => g.minutesPerUnit

theorem isStart_hour_iff (start : Int) : hour.IsStart start ↔ (start - 0) % minutesPerHour = 0 := by
  simp only [IsStart, minutesPerHour, Int.sub_zero]

theorem isStart_day_iff (start : Int) : day.IsStart start ↔ (start - 0) % minutesPerDay = 0 := by
  simp only [IsStart, minutesPerDay, Int.sub_zero]

/-- Monday midnights recur every week from 1970-01-05. -/
theorem isStart_week_iff (start : Int) :
    week.IsStart start ↔ (start - weekAnchor) % minutesPerWeek = 0 := by
  simp only [IsStart, Civil.Weekday.ofDays_eq_monday_iff, weekAnchor, minutesPerWeek]
  omega

/-- The first minutes of months are the first days of months, counted in minutes. -/
theorem isStart_month_iff (start : Int) :
    month.IsStart start ↔ ∃ index, start = 1440 * Civil.monthStart index := by
  constructor
  · rintro ⟨midnight, first⟩
    obtain ⟨_, _, day, _, _⟩ := Civil.Date.ofDays_bracket (start / 1440)
    exact ⟨(Civil.Date.ofDays (start / 1440)).monthIndex, by omega⟩
  · rintro ⟨index, rfl⟩
    refine ⟨by omega, ?_⟩
    rw [Int.mul_ediv_cancel_left _ (by decide), Civil.ofDays_monthStart]
    rfl

/-! ### Last and next starts -/

section Starts

variable {g : Granularity} {minutes start : Int}

theorem IsLastStart.unique (last : g.IsLastStart minutes start) {other : Int}
    (otherLast : g.IsLastStart minutes other) : start = other :=
  Int.le_antisymm (otherLast.greatest start last.isStart last.le)
    (last.greatest other otherLast.isStart otherLast.le)

/-- The last start at or before a minute count is also the last one at or before every count
between the two. -/
theorem IsLastStart.of_between (last : g.IsLastStart minutes start) {earlier : Int}
    (lower : start ≤ earlier) (upper : earlier ≤ minutes) : g.IsLastStart earlier start where
  isStart := last.isStart
  le := lower
  greatest other isStart before := last.greatest other isStart (Int.le_trans before upper)

/-- A later minute count reaches the first start after `minutes` exactly when its own last start
lies after the last start of `minutes`: when it lies in a later bucket. -/
theorem IsNextStart.le_iff {next later laterStart : Int} (nextStart : g.IsNextStart minutes next)
    (last : g.IsLastStart minutes start) (laterLast : g.IsLastStart later laterStart) :
    next ≤ later ↔ start < laterStart := by
  constructor
  · intro reached
    have := laterLast.greatest next nextStart.isStart reached
    have := last.le
    have := nextStart.lt
    omega
  · intro after
    have beyond : minutes < laterStart := by
      by_contra notBeyond
      have := last.greatest laterStart laterLast.isStart (by omega)
      omega
    exact Int.le_trans (nextStart.least laterStart laterLast.isStart beyond) laterLast.le

end Starts

/-! ### Fixed cadences and calendar months -/

section Cadences

variable {g : Granularity} {unit anchor : Int}

theorem isLastStart_floor (pos : 0 < unit) (starts : ∀ x, g.IsStart x ↔ (x - anchor) % unit = 0)
    (minutes : Int) : g.IsLastStart minutes (Minutes.floor minutes unit anchor) where
  isStart := (starts _).2 (Minutes.floor_aligned minutes anchor)
  le := Minutes.floor_le pos minutes anchor
  greatest other start before := Minutes.le_floor_of_aligned pos ((starts other).1 start) before

theorem isNextStart_floor (pos : 0 < unit) (starts : ∀ x, g.IsStart x ↔ (x - anchor) % unit = 0)
    (minutes : Int) : g.IsNextStart minutes (Minutes.floor minutes unit anchor + unit) where
  isStart := by
    rw [starts, show Minutes.floor minutes unit anchor + unit - anchor =
      Minutes.floor minutes unit anchor - anchor + unit by omega, ← Int.emod_eq_add_self_emod]
    exact Minutes.floor_aligned minutes anchor
  lt := Minutes.lt_floor_add pos minutes anchor
  least other start after := Minutes.floor_add_le_of_aligned pos ((starts other).1 start) after

variable {minutes index : Int} (lower : Civil.monthStart index ≤ minutes / 1440)
  (upper : minutes / 1440 < Civil.monthStart (index + 1))
include lower upper

theorem isLastStart_monthStart : month.IsLastStart minutes (1440 * Civil.monthStart index) where
  isStart := (isStart_month_iff _).2 ⟨index, rfl⟩
  le := by omega
  greatest other start before := by
    obtain ⟨earlier, rfl⟩ := (isStart_month_iff other).1 start
    have := Civil.monthStart_strictMono.monotone
      ((Civil.monthStart_le_iff lower upper earlier).1 (by omega))
    omega

theorem isNextStart_monthStart : month.IsNextStart minutes (1440 * Civil.monthStart (index + 1)) where
  isStart := (isStart_month_iff _).2 ⟨index + 1, rfl⟩
  lt := by omega
  least other start after := by
    obtain ⟨later, rfl⟩ := (isStart_month_iff other).1 start
    -- a month at or before `index` starts at or before `minutes`
    have notBefore : ¬ later ≤ index := fun before => by
      have := (Civil.monthStart_le_iff lower upper later).2 before
      omega
    have := Civil.monthStart_strictMono.monotone (show index + 1 ≤ later by omega)
    omega

end Cadences

/-! ### The bucket of an instant -/

theorem intervalEnd_month (t : Instant) :
    month.intervalEnd t = 1440 * Civil.monthStart t.date.monthIndex :=
  Instant.toMinutes_monthStart t

theorem nextBoundary_hour (t : Instant) : hour.nextBoundary t = hour.intervalEnd t + 60 := rfl

theorem nextBoundary_day (t : Instant) : day.nextBoundary t = day.intervalEnd t + 1440 := rfl

theorem nextBoundary_week (t : Instant) : week.nextBoundary t = week.intervalEnd t + 10080 := rfl

/-- The next month boundary is the first minute of the next month, saturated to the range. -/
theorem nextBoundary_month (t : Instant) :
    month.nextBoundary t = Minutes.saturate (1440 * Civil.monthStart (t.date.monthIndex + 1)) := by
  have range := t.monthIndex_date_mem
  simp only [nextBoundary]
  rw [Instant.monthStart_eq_ofMinutes, Instant.toMinutes_addMonths_ofMinutes range.1 range.2]
  rfl

/-- The month of an instant's date holds its minute count. -/
theorem monthIndex_bracket (t : Instant) :
    Civil.monthStart t.date.monthIndex ≤ t.toMinutes / 1440 ∧
      t.toMinutes / 1440 < Civil.monthStart (t.date.monthIndex + 1) := by
  rw [← Instant.days_eq]
  exact t.date_bracket

/-- The last month of the range is December of its last year. -/
theorem monthIndex_eq_last_iff (t : Instant) :
    t.date.monthIndex = 12 * Civil.lastYear + 11 ↔
      t.date.year = Civil.lastYear ∧ t.date.month = 12 := by
  have valid : t.date.Valid := Civil.Date.valid_ofDays t.days
  have := valid.month_pos
  have := valid.month_le
  unfold Civil.Date.monthIndex
  omega

theorem latest_monthIndex : Instant.latest.date.monthIndex = 12 * Civil.lastYear + 11 := by
  decide

theorem monthIndex_lt_last (t : Instant) (notLast : t.date.monthIndex ≠ 12 * Civil.lastYear + 11) :
    t.date.monthIndex < 12 * Civil.lastYear + 11 := by
  have := t.monthIndex_date_mem.2
  omega

theorem isLastStart_intervalEnd (g : Granularity) (t : Instant) :
    g.IsLastStart t.toMinutes (g.intervalEnd t) := by
  cases g with
  | hour => exact isLastStart_floor (by decide) isStart_hour_iff t.toMinutes
  | day => exact isLastStart_floor (by decide) isStart_day_iff t.toMinutes
  | week => exact isLastStart_floor (by decide) isStart_week_iff t.toMinutes
  | month =>
    rw [intervalEnd_month]
    exact isLastStart_monthStart (monthIndex_bracket t).1 (monthIndex_bracket t).2

/-- The month after the last month of the range starts after the range. -/
theorem monthStart_after_last :
    Instant.latest.toMinutes < 1440 * Civil.monthStart (12 * Civil.lastYear + 11 + 1) := by
  rw [Instant.latest_toMinutes]
  decide

/-- Every month before the last month of the range ends within the range. -/
theorem monthStart_succ_le_latest {index : Int} (before : index < 12 * Civil.lastYear + 11) :
    1440 * Civil.monthStart (index + 1) ≤ Instant.latest.toMinutes := by
  have last : Civil.monthStart (12 * Civil.lastYear + 11) = 95026206 := by decide
  have := Civil.monthStart_strictMono.monotone (show index + 1 ≤ 12 * Civil.lastYear + 11 by omega)
  rw [Instant.latest_toMinutes]
  omega

/-- Before the last month of the range, the next month boundary is the next month's start. -/
theorem nextBoundary_month_of_lt {t : Instant} (before : t.date.monthIndex < 12 * Civil.lastYear + 11) :
    month.nextBoundary t = 1440 * Civil.monthStart (t.date.monthIndex + 1) := by
  have after := (monthIndex_bracket t).2
  have range := t.toMinutes_mem
  rw [nextBoundary_month, Instant.saturate_of_mem (by omega) (monthStart_succ_le_latest before)]

/-- In the last month of the range the month after it is out of reach, and the next boundary is
the range's last minute. -/
theorem nextBoundary_month_of_last {t : Instant} (last : t.date.monthIndex = 12 * Civil.lastYear + 11) :
    month.nextBoundary t = Instant.latest.toMinutes := by
  have after := monthStart_after_last
  have := Instant.earliest_toMinutes
  have := Instant.latest_toMinutes
  rw [nextBoundary_month, last]
  unfold Minutes.saturate
  omega

theorem isNextStart_nextBoundary (g : Granularity) (t : Instant)
    (notLast : g = month → t.date.monthIndex ≠ 12 * Civil.lastYear + 11) :
    g.IsNextStart t.toMinutes (g.nextBoundary t) := by
  cases g with
  | hour => exact isNextStart_floor (by decide) isStart_hour_iff t.toMinutes
  | day => exact isNextStart_floor (by decide) isStart_day_iff t.toMinutes
  | week => exact isNextStart_floor (by decide) isStart_week_iff t.toMinutes
  | month =>
    have before := monthIndex_lt_last t (notLast rfl)
    rw [nextBoundary_month_of_lt before]
    exact isNextStart_monthStart (monthIndex_bracket t).1 (monthIndex_bracket t).2

theorem nextBoundary_eq_add_bucketLength (g : Granularity) (t : Instant)
    (notLast : g = month → t.date.monthIndex ≠ 12 * Civil.lastYear + 11) :
    g.nextBoundary t = g.intervalEnd t + g.bucketLength t := by
  cases g with
  | hour => rfl
  | day => rfl
  | week => rfl
  | month =>
    have valid : t.date.Valid := Civil.Date.valid_ofDays t.days
    have parts := Civil.Date.monthIndex_parts valid.month_pos valid.month_le
    have before := monthIndex_lt_last t (notLast rfl)
    rw [nextBoundary_month_of_lt before, intervalEnd_month, Civil.monthStart_succ, parts.1,
      parts.2, bucketLength]
    omega

/-- Either `t` lies in the last month of the range and the next month boundary is the range's
last minute, or the next boundary is the first bucket start after `t`. -/
theorem nextBoundary_cases (g : Granularity) (t : Instant) :
    (g = month ∧ t.date.monthIndex = 12 * Civil.lastYear + 11 ∧
        g.nextBoundary t = Instant.latest.toMinutes) ∨
      ((g = month → t.date.monthIndex ≠ 12 * Civil.lastYear + 11) ∧
        g.IsNextStart t.toMinutes (g.nextBoundary t)) := by
  by_cases saturated : g = month ∧ t.date.monthIndex = 12 * Civil.lastYear + 11
  · obtain ⟨rfl, lastMonth⟩ := saturated
    exact Or.inl ⟨rfl, lastMonth, nextBoundary_month_of_last lastMonth⟩
  · have notLast : g = month → t.date.monthIndex ≠ 12 * Civil.lastYear + 11 :=
      fun isMonth isLast => saturated ⟨isMonth, isLast⟩
    exact Or.inr ⟨notLast, isNextStart_nextBoundary g t notLast⟩

/-! ### Words and re-flooring -/

theorem isWord_intervalEnd (g : Granularity) (t : Instant) : Word.IsWord (g.intervalEnd t) := by
  have := g.intervalEnd_bounds t
  unfold Word.IsWord Word.least Word.greatest
  omega

theorem isWord_nextBoundary (g : Granularity) (t : Instant) : Word.IsWord (g.nextBoundary t) := by
  have := g.intervalEnd_bounds t
  unfold Word.IsWord Word.least Word.greatest
  cases g with
  | hour => rw [nextBoundary_hour]; omega
  | day => rw [nextBoundary_day]; omega
  | week => rw [nextBoundary_week]; omega
  | month =>
    have := Instant.earliest_toMinutes
    have := Instant.latest_toMinutes
    rw [nextBoundary_month]
    unfold Minutes.saturate
    omega

/-- A bucket start read back as an instant lies in its own bucket: its bucket start is itself.
The first week of the range starts before the range, and the instant is the range's first one,
which lies in that week. -/
theorem intervalEnd_ofMinutes_intervalEnd (g : Granularity) (t : Instant) :
    g.intervalEnd (Instant.ofMinutes (g.intervalEnd t)) = g.intervalEnd t := by
  have last := isLastStart_intervalEnd g t
  have range := t.toMinutes_mem
  have count : (Instant.ofMinutes (g.intervalEnd t)).toMinutes =
      max Instant.earliest.toMinutes (g.intervalEnd t) := by
    rw [Instant.toMinutes_ofMinutes]
    have := last.le
    unfold Minutes.saturate
    omega
  have between : g.IsLastStart (Instant.ofMinutes (g.intervalEnd t)).toMinutes (g.intervalEnd t) :=
    last.of_between (by omega) (by have := last.le; omega)
  exact (isLastStart_intervalEnd g _).unique between

/-- The next boundary depends only on the bucket. -/
theorem nextBoundary_eq_of_intervalEnd_eq {g : Granularity} {s t : Instant}
    (same : g.intervalEnd s = g.intervalEnd t) : g.nextBoundary s = g.nextBoundary t := by
  cases g with
  | hour => rw [nextBoundary_hour, nextBoundary_hour, same]
  | day => rw [nextBoundary_day, nextBoundary_day, same]
  | week => rw [nextBoundary_week, nextBoundary_week, same]
  | month =>
    rw [intervalEnd_month, intervalEnd_month] at same
    have index : s.date.monthIndex = t.date.monthIndex :=
      Civil.monthStart_strictMono.injective (by omega)
    rw [nextBoundary_month, nextBoundary_month, index]

theorem nextBoundary_ofMinutes_intervalEnd (g : Granularity) (t : Instant) :
    g.nextBoundary (Instant.ofMinutes (g.intervalEnd t)) = g.nextBoundary t :=
  nextBoundary_eq_of_intervalEnd_eq (intervalEnd_ofMinutes_intervalEnd g t)

/-- A week start in the range, read back as an instant, is midnight on a Monday. -/
theorem weekday_ofMinutes_of_isStart {start : Int} (isStart : week.IsStart start)
    (lower : Instant.earliest.toMinutes ≤ start) (upper : start ≤ Instant.latest.toMinutes) :
    (Instant.ofMinutes start).weekday = .monday ∧ (Instant.ofMinutes start).secondOfDay = 0 := by
  refine ⟨?_, Instant.secondOfDay_ofMinutes lower upper isStart.1⟩
  unfold Instant.weekday
  rw [Instant.days_eq, Instant.toMinutes_ofMinutes, Instant.saturate_of_mem lower upper]
  exact isStart.2

/-! ### Buckets -/

/-- The bucket of an instant runs from `intervalEnd` to `nextBoundary` and is found again from its
start; only the month after the range's last December saturates, at the range's last minute. -/
theorem bucket_intervalEnd_nextBoundary (g : Granularity) (t : Instant) :
    Word.IsWord (g.intervalEnd t) ∧ Word.IsWord (g.nextBoundary t) ∧
      g.IsLastStart t.toMinutes (g.intervalEnd t) ∧
      (g.IsNextStart t.toMinutes (g.nextBoundary t) ∧
          g.nextBoundary t = g.intervalEnd t + g.bucketLength t ∨
        g = month ∧ t.date.year = Civil.lastYear ∧ t.date.month = 12 ∧
          g.nextBoundary t = Instant.latest.toMinutes) ∧
      (g = week → Instant.earliest.toMinutes ≤ g.intervalEnd t →
        (Instant.ofMinutes (g.intervalEnd t)).weekday = .monday ∧
          (Instant.ofMinutes (g.intervalEnd t)).secondOfDay = 0) ∧
      g.intervalEnd (Instant.ofMinutes (g.intervalEnd t)) = g.intervalEnd t ∧
      g.nextBoundary (Instant.ofMinutes (g.intervalEnd t)) = g.nextBoundary t := by
  have last := isLastStart_intervalEnd g t
  refine ⟨isWord_intervalEnd g t, isWord_nextBoundary g t, last, ?_, ?_,
    intervalEnd_ofMinutes_intervalEnd g t, nextBoundary_ofMinutes_intervalEnd g t⟩
  · rcases nextBoundary_cases g t with ⟨rfl, lastMonth, saturated⟩ | ⟨notLast, next⟩
    · obtain ⟨year, december⟩ := (monthIndex_eq_last_iff t).1 lastMonth
      exact Or.inr ⟨rfl, year, december, saturated⟩
    · exact Or.inl ⟨next, nextBoundary_eq_add_bucketLength g t notLast⟩
  · rintro rfl inRange
    exact weekday_ofMinutes_of_isStart last.isStart inRange (Int.le_trans last.le t.toMinutes_mem.2)

/-- The range starts on a Thursday, so the week of its first four days starts before it: that
start reads back as the earliest instant, a Thursday and not a Monday. -/
theorem intervalEnd_week_before_range (t : Instant) :
    (week.intervalEnd t < Instant.earliest.toMinutes ↔
        t.toMinutes < Instant.earliest.toMinutes + 4 * 1440) ∧
      (week.intervalEnd t < Instant.earliest.toMinutes →
        Instant.ofMinutes (week.intervalEnd t) = Instant.earliest ∧
          (Instant.ofMinutes (week.intervalEnd t)).weekday = .thursday) := by
  -- Midnight of the range's fifth day is a Monday, the first week start in the range.
  have monday : (Instant.earliest.toMinutes + 4 * 1440 - weekAnchor) % minutesPerWeek = 0 := by
    rw [Instant.earliest_toMinutes]
    decide
  have pos : (0 : Int) < minutesPerWeek := by decide
  have floorOf : week.intervalEnd t = Minutes.floor t.toMinutes minutesPerWeek weekAnchor := rfl
  refine ⟨?_, ?_⟩
  · rw [floorOf]
    constructor
    · intro before
      by_contra after
      have := Minutes.le_floor_of_aligned pos monday (not_lt.1 after)
      omega
    · intro before
      have := Minutes.floor_add_le_of_aligned pos monday before
      have length : minutesPerWeek = 10080 := rfl
      omega
  · intro before
    rw [Instant.ofMinutes_of_lt before]
    exact ⟨rfl, by decide⟩

/-- At the last instant of the range the next month boundary is that instant's own minute: no
minute of the range lies after it. -/
theorem nextBoundary_month_latest : month.nextBoundary Instant.latest = Instant.latest.toMinutes :=
  nextBoundary_month_of_last latest_monthIndex

/-! ### Passed boundaries -/

theorem hasBoundaryPassed_eq_true (g : Granularity) (since now : Instant) :
    g.hasBoundaryPassed since now = true ↔ g.nextBoundary since ≤ now.toMinutes := by
  unfold hasBoundaryPassed
  exact decide_eq_true_iff

/-- A boundary has passed exactly when `now` lies in a later bucket, or in the range's last minute
after its last December; the answer is monotone in `now`. -/
theorem hasBoundaryPassed_iff_later_bucket (g : Granularity) (since now : Instant) :
    (g.hasBoundaryPassed since now = true ↔
      g.intervalEnd since < g.intervalEnd now ∨
        g = month ∧ since.date.year = Civil.lastYear ∧ since.date.month = 12 ∧
          now.toMinutes = Instant.latest.toMinutes) ∧
    (∀ later : Instant, now ≤ later →
      g.hasBoundaryPassed since now = true → g.hasBoundaryPassed since later = true) ∧
    (now ≤ since → g.hasBoundaryPassed since now = true →
      g = month ∧ now.toMinutes = Instant.latest.toMinutes) := by
  have nowRange := now.toMinutes_mem
  refine ⟨?_, ?_, ?_⟩
  · rw [hasBoundaryPassed_eq_true]
    rcases nextBoundary_cases g since with ⟨rfl, lastMonth, saturated⟩ | ⟨notLast, next⟩
    · -- no month of the range starts after the last one
      have noLater : month.intervalEnd now ≤ month.intervalEnd since := by
        rw [intervalEnd_month, intervalEnd_month, lastMonth]
        have := Civil.monthStart_strictMono.monotone now.monthIndex_date_mem.2
        omega
      obtain ⟨year, december⟩ := (monthIndex_eq_last_iff since).1 lastMonth
      rw [saturated]
      simp only [year, december, true_and]
      omega
    · rw [next.le_iff (isLastStart_intervalEnd g since) (isLastStart_intervalEnd g now)]
      constructor
      · exact Or.inl
      · rintro (later | ⟨isMonth, year, december, _⟩)
        · exact later
        · exact absurd ((monthIndex_eq_last_iff since).2 ⟨year, december⟩) (notLast isMonth)
  · intro later le passed
    rw [hasBoundaryPassed_eq_true] at passed ⊢
    exact Int.le_trans passed (Instant.toMinutes_le_of_le le)
  · intro le passed
    rw [hasBoundaryPassed_eq_true] at passed
    have before := Instant.toMinutes_le_of_le le
    rcases nextBoundary_cases g since with ⟨rfl, _, saturated⟩ | ⟨_, next⟩
    · rw [saturated] at passed
      exact ⟨rfl, by omega⟩
    · have := next.lt
      omega

/-- At the last instant of the range the month boundary has passed, with `now` the same instant
as `since`. -/
theorem hasBoundaryPassed_month_latest :
    month.hasBoundaryPassed Instant.latest Instant.latest = true := by
  rw [hasBoundaryPassed_eq_true, nextBoundary_month_of_last latest_monthIndex]

end Granularity

end Cadence
