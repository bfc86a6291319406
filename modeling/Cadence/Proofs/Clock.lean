import Cadence.Proofs.Civil
import Cadence.Time.Shift

/-!
# Instants read as minute counts

Schedules see an instant only through its minute count `Instant.toMinutes`. This module says
what every construction and move of an instant does to that count. The counts of the supported
range run from `Instant.earliest.toMinutes` to `Instant.latest.toMinutes`, and every result
outside it is pulled back to its nearer end (`Minutes.saturate`): an instant made from a minute
count, the start of an instant's month, and moves by minutes, days and months.

Main statements: `Instant.toMinutes_ofMinutes`, `Instant.monthStart_eq_ofMinutes`,
`Instant.toMinutes_addMinutes`, `Instant.toMinutes_addDays`,
`Instant.toMinutes_addMonths_ofMinutes`, and the moves back that never give a later instant,
`Instant.addSeconds_le` and `Instant.subMonths_le`.
-/

namespace Cadence

/-- A minute count pulled into the minute counts of the supported range. -/
def Minutes.saturate (minutes : Int) : Int :=
  max Instant.earliest.toMinutes (min minutes Instant.latest.toMinutes)

namespace Instant

theorem earliest_toMinutes : earliest.toMinutes = -138910020480 := by decide

theorem latest_toMinutes : latest.toMinutes = 136837781279 := by decide

/-- Every instant's minute count lies in the supported range. -/
theorem toMinutes_mem (t : Instant) :
    earliest.toMinutes ≤ t.toMinutes ∧ t.toMinutes ≤ latest.toMinutes := by
  rw [earliest_toMinutes, latest_toMinutes]
  exact t.toMinutes_bounds

theorem saturate_of_mem {minutes : Int} (lower : earliest.toMinutes ≤ minutes)
    (upper : minutes ≤ latest.toMinutes) : Minutes.saturate minutes = minutes := by
  unfold Minutes.saturate
  omega

theorem saturate_toMinutes (t : Instant) : Minutes.saturate t.toMinutes = t.toMinutes :=
  saturate_of_mem t.toMinutes_mem.1 t.toMinutes_mem.2

/-- A second count lies before the range exactly when its minute count does, and after it
exactly when its minute count does. -/
theorem seconds_out_of_range_iff (seconds : Int) :
    (seconds < earliestSecond ↔ seconds / 60 < earliest.toMinutes) ∧
      (latestSecond < seconds ↔ latest.toMinutes < seconds / 60) := by
  rw [earliest_toMinutes, latest_toMinutes]
  unfold earliestSecond latestSecond
  omega

/-- The saturated minute count of a second count, by the three places it can lie. -/
theorem saturate_ediv_60 (seconds : Int) :
    (seconds < earliestSecond → Minutes.saturate (seconds / 60) = earliest.toMinutes) ∧
      (latestSecond < seconds → Minutes.saturate (seconds / 60) = latest.toMinutes) ∧
      (earliestSecond ≤ seconds → seconds ≤ latestSecond →
        Minutes.saturate (seconds / 60) = seconds / 60) := by
  unfold Minutes.saturate
  rw [earliest_toMinutes, latest_toMinutes]
  unfold earliestSecond latestSecond
  omega

/-- Saturating a second count saturates its minute count. -/
theorem toMinutes_clamp (seconds : Int) (nanos : Nat) (nanos_lt : nanos < nanosPerSecond) :
    (clamp seconds nanos nanos_lt).toMinutes = Minutes.saturate (seconds / 60) := by
  have cases := saturate_ediv_60 seconds
  unfold clamp
  split
  · rename_i below
    exact (cases.1 below).symm
  · split
    · rename_i _ above
      exact (cases.2.1 above).symm
    · exact (cases.2.2 (by omega) (by omega)).symm

theorem toMinutes_atEarlier (t : Instant) (seconds : Int) (same : seconds % 60 = t.seconds % 60) :
    (t.atEarlier seconds same).toMinutes = Minutes.saturate (seconds / 60) := by
  have cases := saturate_ediv_60 seconds
  unfold atEarlier
  split
  · rename_i below
    exact (cases.1 below).symm
  · split
    · rename_i _ above
      exact (cases.2.1 above).symm
    · exact (cases.2.2 (by omega) (by omega)).symm

theorem toMinutes_atLater (t : Instant) (seconds : Int) (same : seconds % 60 = t.seconds % 60) :
    (t.atLater seconds same).toMinutes = Minutes.saturate (seconds / 60) := by
  unfold atLater
  split
  · rename_i last
    rw [last.1]
    unfold Minutes.saturate
    rw [earliest_toMinutes, latest_toMinutes]
    decide
  · exact toMinutes_atEarlier t seconds same

/-! ### Instants made from minute counts -/

/-- An instant made from a minute count has the saturated count. -/
theorem toMinutes_ofMinutes (minutes : Int) :
    (ofMinutes minutes).toMinutes = Minutes.saturate minutes := by
  unfold ofMinutes
  rw [toMinutes_clamp, Int.mul_ediv_cancel _ (by decide)]

/-- A minute count of the range names the start of that minute. -/
theorem ofMinutes_of_mem {minutes : Int} (lower : earliest.toMinutes ≤ minutes)
    (upper : minutes ≤ latest.toMinutes) :
    (ofMinutes minutes).seconds = minutes * 60 ∧ (ofMinutes minutes).nanos = 0 := by
  have range := seconds_out_of_range_iff (minutes * 60)
  rw [Int.mul_ediv_cancel _ (by decide)] at range
  unfold ofMinutes clamp
  rw [dif_neg (by omega), dif_neg (by omega)]
  exact ⟨rfl, rfl⟩

/-- A minute count before the range names the earliest instant. -/
theorem ofMinutes_of_lt {minutes : Int} (before : minutes < earliest.toMinutes) :
    ofMinutes minutes = earliest := by
  have range := seconds_out_of_range_iff (minutes * 60)
  rw [Int.mul_ediv_cancel _ (by decide)] at range
  unfold ofMinutes clamp
  rw [dif_pos (by omega)]

/-- A minute count after the range names the latest instant. -/
theorem ofMinutes_of_gt {minutes : Int} (after : latest.toMinutes < minutes) :
    ofMinutes minutes = latest := by
  have range := seconds_out_of_range_iff (minutes * 60)
  rw [Int.mul_ediv_cancel _ (by decide)] at range
  have ends : earliest.toMinutes ≤ latest.toMinutes := by
    rw [earliest_toMinutes, latest_toMinutes]
    decide
  unfold ofMinutes clamp
  rw [dif_neg (by omega), dif_pos (by omega)]

/-- An instant's own minute count names the start of its minute: its seconds rounded down to a
multiple of 60, without nanoseconds. -/
theorem ofMinutes_toMinutes (t : Instant) :
    (ofMinutes t.toMinutes).seconds = t.seconds / 60 * 60 ∧ (ofMinutes t.toMinutes).nanos = 0 :=
  ofMinutes_of_mem t.toMinutes_mem.1 t.toMinutes_mem.2

/-- The start of an instant's minute comes no later than the instant. -/
theorem ofMinutes_toMinutes_le (t : Instant) : ofMinutes t.toMinutes ≤ t := by
  obtain ⟨seconds, nanos⟩ := ofMinutes_toMinutes t
  show _ < t.seconds ∨ (_ = t.seconds ∧ _ ≤ t.nanos)
  rw [seconds, nanos]
  omega

/-- A minute count names an instant clamped to the range, and an instant's count names the start
of its minute, no later than the instant. -/
theorem minutes_roundTrip_clamp :
    (∀ minutes : Int,
      (ofMinutes minutes).toMinutes = max (-138910020480) (min minutes 136837781279)) ∧
    (∀ minutes : Int, -138910020480 ≤ minutes → minutes ≤ 136837781279 →
      (ofMinutes minutes).seconds = 60 * minutes ∧ (ofMinutes minutes).nanos = 0) ∧
    (∀ minutes : Int, minutes < -138910020480 → ofMinutes minutes = earliest) ∧
    (∀ minutes : Int, 136837781279 < minutes → ofMinutes minutes = latest) ∧
    earliest.seconds = 60 * -138910020480 ∧ earliest.nanos = 0 ∧
    latest.seconds = 60 * 136837781279 + 59 ∧ latest.nanos = 999999999 ∧
    ∀ t : Instant,
      (ofMinutes t.toMinutes).seconds % 60 = 0 ∧ (ofMinutes t.toMinutes).seconds ≤ t.seconds ∧
        t.seconds < (ofMinutes t.toMinutes).seconds + 60 ∧ (ofMinutes t.toMinutes).nanos = 0 ∧
        ofMinutes t.toMinutes ≤ t := by
  have lower := earliest_toMinutes
  have upper := latest_toMinutes
  refine ⟨fun minutes => ?_, fun minutes atLeast atMost => ?_, fun minutes before => ?_,
    fun minutes after => ?_, rfl, rfl, rfl, rfl, fun t => ?_⟩
  · rw [toMinutes_ofMinutes, Minutes.saturate, lower, upper]
  · rw [Int.mul_comm]
    exact ofMinutes_of_mem (by omega) (by omega)
  · exact ofMinutes_of_lt (by omega)
  · exact ofMinutes_of_gt (by omega)
  · obtain ⟨seconds, nanos⟩ := ofMinutes_toMinutes t
    rw [seconds]
    exact ⟨by omega, by omega, by omega, nanos, ofMinutes_toMinutes_le t⟩

/-- The instant of a minute count lies in no leap second. -/
theorem inLeapSecond_ofMinutes (minutes : Int) : (ofMinutes minutes).inLeapSecond = false := by
  unfold ofMinutes clamp inLeapSecond
  split
  · decide
  · split
    · decide
    · simp [nanosPerSecond]

/-- Days from the epoch to an instant's date are its minutes divided by a day's. -/
theorem days_eq (t : Instant) : t.days = t.toMinutes / 1440 := by
  unfold days toMinutes
  omega

theorem secondOfDay_ofMinutes {minutes : Int} (lower : earliest.toMinutes ≤ minutes)
    (upper : minutes ≤ latest.toMinutes) (midnight : minutes % 1440 = 0) :
    (ofMinutes minutes).secondOfDay = 0 := by
  unfold secondOfDay
  rw [(ofMinutes_of_mem lower upper).1]
  omega

theorem date_ofMinutes {minutes : Int} (lower : earliest.toMinutes ≤ minutes)
    (upper : minutes ≤ latest.toMinutes) :
    (ofMinutes minutes).date = Civil.Date.ofDays (minutes / 1440) := by
  unfold date
  rw [days_eq, toMinutes_ofMinutes, saturate_of_mem lower upper]

/-! ### Starts of months -/

/-- An instant's date lies in the month of its month index. -/
theorem date_bracket (t : Instant) :
    Civil.monthStart t.date.monthIndex ≤ t.days ∧
      t.days < Civil.monthStart (t.date.monthIndex + 1) :=
  ⟨(Civil.Date.ofDays_bracket t.days).1, (Civil.Date.ofDays_bracket t.days).2.1⟩

/-- The supported range runs from January of the first year to December of the last. -/
theorem monthIndex_date_mem (t : Instant) :
    12 * Civil.firstYear ≤ t.date.monthIndex ∧ t.date.monthIndex ≤ 12 * Civil.lastYear + 11 := by
  have bracket := t.date_bracket
  have range := t.toMinutes_mem
  have first : Civil.monthStart (12 * Civil.firstYear) = -96465292 := by decide
  have afterLast : Civil.monthStart (12 * Civil.lastYear + 11 + 1) = 95026237 := by decide
  rw [days_eq] at bracket
  rw [earliest_toMinutes, latest_toMinutes] at range
  constructor
  · by_contra before
    have := Civil.monthStart_strictMono.monotone
      (show t.date.monthIndex + 1 ≤ 12 * Civil.firstYear by omega)
    omega
  · by_contra after
    have := Civil.monthStart_strictMono.monotone
      (show 12 * Civil.lastYear + 11 + 1 ≤ t.date.monthIndex by omega)
    omega

/-- The start of an instant's month is midnight on the first day of the month of its date. -/
theorem monthStart_eq_ofMinutes (t : Instant) :
    t.monthStart = ofMinutes (1440 * Civil.monthStart t.date.monthIndex) := by
  have valid : t.date.Valid := Civil.Date.valid_ofDays t.days
  have first : t.date.firstOfMonth.toDays = Civil.monthStart t.date.monthIndex := by
    rw [Civil.Date.firstOfMonth_eq valid.month_pos valid.month_le, Civil.toDays_firstOfIndex]
  unfold monthStart ofMinutes
  rw [first, show 1440 * Civil.monthStart t.date.monthIndex * 60 =
    Civil.monthStart t.date.monthIndex * 86400 by omega]

/-- The first day of every month of the range lies in the range. -/
theorem monthStart_mem {index : Int} (lower : 12 * Civil.firstYear ≤ index)
    (upper : index ≤ 12 * Civil.lastYear + 11) :
    earliest.toMinutes ≤ 1440 * Civil.monthStart index ∧
      1440 * Civil.monthStart index ≤ latest.toMinutes := by
  have first : Civil.monthStart (12 * Civil.firstYear) = -96465292 := by decide
  have last : Civil.monthStart (12 * Civil.lastYear + 11) = 95026206 := by decide
  have := Civil.monthStart_strictMono.monotone lower
  have := Civil.monthStart_strictMono.monotone upper
  rw [earliest_toMinutes, latest_toMinutes]
  omega

theorem toMinutes_monthStart (t : Instant) :
    t.monthStart.toMinutes = 1440 * Civil.monthStart t.date.monthIndex := by
  have range := t.monthIndex_date_mem
  rw [monthStart_eq_ofMinutes, toMinutes_ofMinutes,
    saturate_of_mem (monthStart_mem range.1 range.2).1 (monthStart_mem range.1 range.2).2]

/-! ### Moves -/

/-- Moving by minutes moves the minute count, saturated. A move back from a leap second counts
from the second after it, which starts the next minute. -/
theorem toMinutes_addMinutes (t : Instant) (minutes : Int) :
    (t.addMinutes minutes).toMinutes =
      Minutes.saturate (t.toMinutes + minutes + if t.inLeapSecond ∧ minutes < 0 then 1 else 0) := by
  unfold addMinutes addSeconds
  by_cases zero : minutes = 0
  · subst zero
    simp only [Int.zero_mul, if_true, Int.add_zero, show ¬ (0 : Int) < 0 by decide, and_false,
      if_false]
    exact (saturate_toMinutes t).symm
  · rw [if_neg (by omega), toMinutes_clamp]
    congr 1
    split
    · rename_i leap
      have leapSecond : t.seconds % 60 = 59 := by
        have valid := t.nanos_valid
        unfold inLeapSecond at leap
        unfold NanosValid at valid
        simp only [decide_eq_true_eq] at leap
        omega
      rw [if_pos ⟨leap.1, by omega⟩]
      unfold toMinutes
      omega
    · rename_i notLeap
      rw [if_neg (fun both => notLeap ⟨both.1, by omega⟩)]
      unfold toMinutes
      omega

/-- Moving forward by days moves the minute count by whole days, saturated. -/
theorem toMinutes_addDays (t : Instant) (days : Nat) :
    (t.addDays days).toMinutes = Minutes.saturate (t.toMinutes + 1440 * days) := by
  unfold addDays
  split
  · rename_i zero
    subst zero
    simp only [Int.natCast_zero, Int.mul_zero, Int.add_zero]
    exact (saturate_toMinutes t).symm
  · rw [toMinutes_atLater]
    unfold toMinutes
    congr 1
    omega

/-- The first minute of a month of the range, read as an instant, falls on the month's first day. -/
theorem date_ofMinutes_monthStart {index : Int}
    (lower : earliest.toMinutes ≤ 1440 * Civil.monthStart index)
    (upper : 1440 * Civil.monthStart index ≤ latest.toMinutes) :
    (ofMinutes (1440 * Civil.monthStart index)).date = Civil.firstOfIndex index := by
  rw [date_ofMinutes lower upper, Int.mul_ediv_cancel_left _ (by decide), Civil.ofDays_monthStart]

/-- The months whose first minute lies in the range are the months of the range. -/
theorem monthIndex_mem_of_monthStart_mem {index : Int}
    (lower : earliest.toMinutes ≤ 1440 * Civil.monthStart index)
    (upper : 1440 * Civil.monthStart index ≤ latest.toMinutes) :
    12 * Civil.firstYear ≤ index ∧ index ≤ 12 * Civil.lastYear + 11 := by
  have range := (ofMinutes (1440 * Civil.monthStart index)).monthIndex_date_mem
  rwa [date_ofMinutes_monthStart lower upper, Civil.monthIndex_firstOfIndex] at range

/-- Moving the first of a month forward by whole months gives the first of the target month,
saturated. -/
theorem toMinutes_addMonths_ofMinutes {index : Int} (lower : 12 * Civil.firstYear ≤ index)
    (upper : index ≤ 12 * Civil.lastYear + 11) (months : Nat) :
    ((ofMinutes (1440 * Civil.monthStart index)).addMonths months).toMinutes =
      Minutes.saturate (1440 * Civil.monthStart (index + months)) := by
  have range := monthStart_mem lower upper
  have date := date_ofMinutes_monthStart range.1 range.2
  unfold addMonths
  rw [toMinutes_atLater]
  unfold monthShiftedSeconds
  rw [date, Civil.addMonths_firstOfIndex, Civil.toDays_firstOfIndex,
    secondOfDay_ofMinutes range.1 range.2 (by omega)]
  congr 1
  omega

/-! ### Moves back -/

/-- The earliest instant comes first. -/
theorem earliest_le_instant (t : Instant) : earliest ≤ t := by
  have := t.earliest_le
  show earliestSecond < t.seconds ∨ (earliestSecond = t.seconds ∧ 0 ≤ t.nanos)
  omega

/-- Saturating a second count at or before an instant's gives an instant no later. -/
theorem clamp_le {seconds : Int} {nanos : Nat} {nanos_lt : nanos < nanosPerSecond} {t : Instant}
    (before : seconds < t.seconds ∨ (seconds = t.seconds ∧ nanos ≤ t.nanos)) :
    clamp seconds nanos nanos_lt ≤ t := by
  unfold clamp
  split
  · exact t.earliest_le_instant
  · split
    · have := t.le_latest
      omega
    · exact before

/-- Moving an instant's date back keeps it no later. -/
theorem atEarlier_le (t : Instant) {seconds : Int} {same : seconds % 60 = t.seconds % 60}
    (before : seconds ≤ t.seconds) : t.atEarlier seconds same ≤ t := by
  unfold atEarlier
  split
  · exact t.earliest_le_instant
  · split
    · have := t.le_latest
      omega
    · show seconds < t.seconds ∨ (seconds = t.seconds ∧ t.nanos ≤ t.nanos)
      omega

/-- Moving back by seconds never gives a later instant. A move back from a leap second counts
from the second after it, so a move of one second lands in the second the leap second
extends, with the same fraction. -/
theorem addSeconds_le (t : Instant) {delta : Int} (back : delta ≤ 0) : t.addSeconds delta ≤ t := by
  unfold addSeconds
  split
  · exact Or.inr ⟨rfl, Nat.le_refl _⟩
  · dsimp only
    apply clamp_le
    have subsecond : t.subsecond ≤ t.nanos := Nat.mod_le _ _
    split <;> omega

/-- Moving the instant's date back by whole months never gives a later day count. -/
theorem toDays_addMonths_neg_le (t : Instant) (months : Nat) :
    (t.date.addMonths (-(months : Int))).toDays ≤ t.days := by
  have earlier := Civil.Date.toDays_addMonths_neg_le (Civil.Date.valid_ofDays t.days) months
  rwa [Civil.Date.toDays_ofDays] at earlier

/-- Moving back by whole months never gives a later instant. -/
theorem subMonths_le (t : Instant) (months : Nat) : t.subMonths months ≤ t := by
  have earlier := t.toDays_addMonths_neg_le months
  unfold subMonths
  apply atEarlier_le
  unfold monthShiftedSeconds secondOfDay
  unfold days at earlier
  omega

/-- A later instant has a minute count no smaller. -/
theorem toMinutes_le_of_le {a b : Instant} (le : a ≤ b) : a.toMinutes ≤ b.toMinutes := by
  unfold toMinutes
  rcases le with before | ⟨same, _⟩
  · exact Int.ediv_le_ediv (by decide) (Int.le_of_lt before)
  · rw [same]

end Instant

end Cadence
