import Cadence.Proofs.Clock
import Cadence.Schedule.Timeline

/-!
# Moving instants by whole buckets

Hours move an instant by minutes, days and weeks by whole days of its date, months by calendar
months, and every move saturates at the ends of the supported range. This module states each
move against one rule, `Instant.ofPartsSaturating`: the instant whose seconds and nanoseconds
are the moved parts, or the end of the range that the parts lie beyond, instants ordered by
their seconds and then their nanoseconds.

Moves by days, weeks and months keep the nanoseconds, a leap second's included. A move by
minutes keeps them too, except from a leap second: it then leaves the leap second, counting from
the second the leap second extends when it moves forward and from the second after it when it
moves back, with the fraction past the leap second's start. So moving back by whole buckets
(`Granularity.subtractIntervals`, by minutes) agrees with `Granularity.decrement` except for days
and weeks from a leap second, and an hour's round trip comes back to its start except from a
leap second.

Main statement: `Granularity.moves_saturate_keep_fraction`.
-/

namespace Cadence

namespace Instant

theorem ext {a b : Instant} (seconds : a.seconds = b.seconds) (nanos : a.nanos = b.nanos) :
    a = b := by
  cases a
  cases b
  simp only at seconds nanos
  subst seconds nanos
  rfl

theorem latest_seconds : latest.seconds = latestSecond := rfl

theorem latest_nanos : latest.nanos = 999999999 := rfl

/-- Seconds and nanoseconds that name an instant no earlier than the earliest and no later than
the latest, in the order of instants. -/
def PartsInRange (seconds : Int) (nanos : Nat) : Prop :=
  earliestSecond ≤ seconds ∧ (seconds < latestSecond ∨ seconds = latestSecond ∧ nanos ≤ latest.nanos)

instance (seconds : Int) (nanos : Nat) : Decidable (PartsInRange seconds nanos) :=
  inferInstanceAs (Decidable (_ ∧ (_ ∨ _ ∧ _)))

/-- The instant with the parts `seconds` and `nanos` when they name one of the range, and the end
of the range that they lie beyond otherwise: the earliest instant before it, the latest after it. -/
def ofPartsSaturating (seconds : Int) (nanos : Nat) : Instant :=
  if h : NanosValid seconds nanos ∧ PartsInRange seconds nanos then
    ⟨seconds, nanos, h.1, h.2.1, h.2.2.elim Int.le_of_lt fun last => Int.le_of_eq last.1⟩
  else if seconds < earliestSecond then earliest else latest

/-- An instant's own parts name an instant of the range exactly when it is no later than the
latest one. -/
theorem partsInRange_iff_le (t : Instant) : PartsInRange t.seconds t.nanos ↔ t ≤ latest :=
  ⟨fun inRange => inRange.2, fun le => ⟨t.earliest_le, le⟩⟩

theorem partsInRange_of_lt {seconds : Int} {nanos : Nat} (lower : earliestSecond ≤ seconds)
    (upper : seconds ≤ latestSecond) (lt : nanos < nanosPerSecond) : PartsInRange seconds nanos := by
  unfold PartsInRange nanosPerSecond at *
  rw [latest_nanos]
  omega

theorem ofPartsSaturating_of_inRange {seconds : Int} {nanos : Nat} (valid : NanosValid seconds nanos)
    (inRange : PartsInRange seconds nanos) :
    (ofPartsSaturating seconds nanos).seconds = seconds ∧
      (ofPartsSaturating seconds nanos).nanos = nanos := by
  unfold ofPartsSaturating
  rw [dif_pos ⟨valid, inRange⟩]
  exact ⟨rfl, rfl⟩

theorem ofPartsSaturating_of_lt {seconds : Int} {nanos : Nat} (before : seconds < earliestSecond) :
    ofPartsSaturating seconds nanos = earliest := by
  unfold ofPartsSaturating
  rw [dif_neg fun h => absurd h.2.1 (by omega), if_pos before]

theorem ofPartsSaturating_of_not_inRange {seconds : Int} {nanos : Nat}
    (notBefore : earliestSecond ≤ seconds) (beyond : ¬ PartsInRange seconds nanos) :
    ofPartsSaturating seconds nanos = latest := by
  unfold ofPartsSaturating
  rw [dif_neg fun h => beyond h.2, if_neg (by omega)]

theorem ofPartsSaturating_of_gt {seconds : Int} {nanos : Nat} (after : latestSecond < seconds) :
    ofPartsSaturating seconds nanos = latest := by
  refine ofPartsSaturating_of_not_inRange (by unfold earliestSecond latestSecond at *; omega)
    fun inRange => ?_
  unfold PartsInRange at inRange
  omega

/-- An instant of the range is saturated to itself. -/
theorem ofPartsSaturating_self {t : Instant} (le : t ≤ latest) :
    ofPartsSaturating t.seconds t.nanos = t := by
  have parts := ofPartsSaturating_of_inRange t.nanos_valid ((partsInRange_iff_le t).2 le)
  exact ext parts.1 parts.2

theorem ofPartsSaturating_le_latest (seconds : Int) (nanos : Nat) :
    ofPartsSaturating seconds nanos ≤ latest := by
  unfold ofPartsSaturating
  split
  · rename_i h
    exact h.2.2
  · split
    · exact earliest_le_instant latest
    · exact Or.inr ⟨rfl, Nat.le_refl _⟩

/-- Parts at or after an instant of the range saturate to an instant no earlier. -/
theorem le_ofPartsSaturating {t : Instant} (le : t ≤ latest) {seconds : Int} {nanos : Nat}
    (later : t.seconds < seconds ∨ t.seconds = seconds ∧ t.nanos ≤ nanos) :
    t ≤ ofPartsSaturating seconds nanos := by
  have := t.earliest_le
  unfold ofPartsSaturating
  split
  · exact later
  · rw [if_neg (by omega)]
    exact le

/-- Valid parts at or before an instant saturate to an instant no later. -/
theorem ofPartsSaturating_le {t : Instant} {seconds : Int} {nanos : Nat}
    (valid : NanosValid seconds nanos)
    (earlier : seconds < t.seconds ∨ seconds = t.seconds ∧ nanos ≤ t.nanos) :
    ofPartsSaturating seconds nanos ≤ t := by
  by_cases before : seconds < earliestSecond
  · rw [ofPartsSaturating_of_lt before]
    exact earliest_le_instant t
  by_cases inRange : PartsInRange seconds nanos
  · have parts := ofPartsSaturating_of_inRange valid inRange
    show _ < _ ∨ _ = _ ∧ _ ≤ _
    rw [parts.1, parts.2]
    exact earlier
  · -- parts beyond the range and no later than `t` are the leap second after the latest instant
    rw [ofPartsSaturating_of_not_inRange (by omega) inRange]
    have := t.le_latest
    unfold PartsInRange at inRange
    show _ < _ ∨ _ = _ ∧ _ ≤ _
    rw [latest_seconds, latest_nanos] at *
    omega

/-! ### The moves of the model, against the rule -/

/-- Saturating seconds with less than a second of nanoseconds. -/
theorem clamp_eq_ofPartsSaturating (seconds : Int) (nanos : Nat) (lt : nanos < nanosPerSecond) :
    clamp seconds nanos lt = ofPartsSaturating seconds nanos := by
  unfold clamp
  split
  · rename_i before
    exact (ofPartsSaturating_of_lt before).symm
  · split
    · rename_i after
      exact (ofPartsSaturating_of_gt after).symm
    · rename_i notBefore notAfter
      have parts := ofPartsSaturating_of_inRange (nanosValid_of_lt lt : NanosValid seconds nanos)
        (partsInRange_of_lt (by omega) (by omega) lt)
      exact ext parts.1.symm parts.2.symm

/-- A move forward to `seconds`, the nanoseconds kept. -/
theorem atLater_eq_ofPartsSaturating (t : Instant) (seconds : Int)
    (same : seconds % 60 = t.seconds % 60) :
    t.atLater seconds same = ofPartsSaturating seconds t.nanos := by
  have valid := nanosValid_of_emod same t.nanos_valid
  unfold atLater atEarlier
  by_cases leapAtLatest : seconds = latestSecond ∧ t.inLeapSecond
  · -- the leap second after the latest instant lies beyond the range
    rw [if_pos leapAtLatest]
    symm
    refine ofPartsSaturating_of_not_inRange (by unfold earliestSecond latestSecond at *; omega)
      fun inRange => ?_
    have leap := leapAtLatest.2
    unfold inLeapSecond nanosPerSecond at leap
    unfold PartsInRange at inRange
    rw [latest_nanos] at inRange
    simp only [decide_eq_true_eq] at leap
    omega
  · rw [if_neg leapAtLatest]
    split
    · rename_i before
      exact (ofPartsSaturating_of_lt before).symm
    · split
      · rename_i after
        exact (ofPartsSaturating_of_gt after).symm
      · rename_i notBefore notAfter
        -- at the latest second the instant is in no leap second, so its nanoseconds fit
        have inRange : PartsInRange seconds t.nanos := by
          refine ⟨by omega, ?_⟩
          by_cases last : seconds = latestSecond
          · have plain : t.inLeapSecond = false := by
              cases leap : t.inLeapSecond
              · rfl
              · exact absurd ⟨last, leap⟩ leapAtLatest
            unfold inLeapSecond nanosPerSecond at plain
            simp only [decide_eq_false_iff_not] at plain
            rw [latest_nanos]
            omega
          · omega
        have parts := ofPartsSaturating_of_inRange valid inRange
        exact ext parts.1.symm parts.2.symm

/-- A move back to `seconds`, the nanoseconds kept, when it does not land in the leap second
after the latest instant. -/
theorem atEarlier_eq_ofPartsSaturating (t : Instant) (seconds : Int)
    (same : seconds % 60 = t.seconds % 60)
    (notLeapAtLatest : seconds = latestSecond → t.inLeapSecond = false) :
    t.atEarlier seconds same = ofPartsSaturating seconds t.nanos := by
  have forward := atLater_eq_ofPartsSaturating t seconds same
  unfold atLater at forward
  rwa [if_neg fun both => by rw [notLeapAtLatest both.1] at both; exact Bool.false_ne_true both.2]
    at forward

/-- An instant of the range at its latest second lies in no leap second. -/
theorem inLeapSecond_eq_false_of_latest {t : Instant} (le : t ≤ latest)
    (last : t.seconds = latestSecond) : t.inLeapSecond = false := by
  unfold inLeapSecond nanosPerSecond
  simp only [decide_eq_false_iff_not]
  have : t.nanos ≤ 999999999 := by
    rcases le with before | ⟨_, nanos⟩
    · rw [latest_seconds] at before
      omega
    · exact nanos
  omega

theorem addDays_eq_ofPartsSaturating (t : Instant) (days : Nat) (le : t ≤ latest) :
    t.addDays days = ofPartsSaturating (t.seconds + days * 86400) t.nanos := by
  unfold addDays
  split
  · rename_i none
    subst none
    rw [Int.natCast_zero, Int.zero_mul, Int.add_zero, ofPartsSaturating_self le]
  · exact atLater_eq_ofPartsSaturating t _ _

theorem subDays_eq_ofPartsSaturating (t : Instant) (days : Nat) (le : t ≤ latest) :
    t.subDays days = ofPartsSaturating (t.seconds - days * 86400) t.nanos := by
  unfold subDays
  rw [atEarlier_eq_ofPartsSaturating t _ _ fun last => inLeapSecond_eq_false_of_latest le
    (by have := t.le_latest; omega)]
  congr 1
  omega

/-- A move by minutes from outside a leap second, or no move, keeps the nanoseconds. -/
theorem addMinutes_eq_ofPartsSaturating (t : Instant) (minutes : Int) (le : t ≤ latest)
    (plain : t.inLeapSecond = false ∨ minutes = 0) :
    t.addMinutes minutes = ofPartsSaturating (t.seconds + minutes * 60) t.nanos := by
  unfold addMinutes addSeconds
  by_cases zero : minutes = 0
  · subst zero
    rw [if_pos (Int.zero_mul 60), Int.zero_mul, Int.add_zero, ofPartsSaturating_self le]
  · have notLeap := plain.resolve_right zero
    rw [if_neg (by omega), clamp_eq_ofPartsSaturating]
    have fraction : t.subsecond = t.nanos := by
      unfold inLeapSecond at notLeap
      simp only [decide_eq_false_iff_not] at notLeap
      exact Nat.mod_eq_of_lt (by omega)
    simp only [notLeap, Bool.false_eq_true, false_and, if_false, fraction]

/-- A move by minutes from a leap second leaves it: forward it counts from the second the leap
second extends, back from the second after it, keeping the fraction past the leap second's
start. -/
theorem addMinutes_of_inLeapSecond (t : Instant) (minutes : Int) (leap : t.inLeapSecond = true)
    (moving : minutes ≠ 0) :
    t.addMinutes minutes =
      ofPartsSaturating ((if minutes < 0 then t.seconds + 1 else t.seconds) + minutes * 60)
        t.subsecond := by
  unfold addMinutes addSeconds
  rw [if_neg (by omega), clamp_eq_ofPartsSaturating]
  simp only [leap, true_and, show minutes * 60 < 0 ↔ minutes < 0 by omega]

theorem addMonths_eq_ofPartsSaturating (t : Instant) (months : Nat) :
    t.addMonths months = ofPartsSaturating (t.monthShiftedSeconds months) t.nanos :=
  atLater_eq_ofPartsSaturating t _ _

theorem subMonths_eq_ofPartsSaturating (t : Instant) (months : Nat) (le : t ≤ latest) :
    t.subMonths months = ofPartsSaturating (t.monthShiftedSeconds (-(months : Int))) t.nanos := by
  have earlier := t.toDays_addMonths_neg_le months
  unfold subMonths
  refine atEarlier_eq_ofPartsSaturating t _ _ fun last => inLeapSecond_eq_false_of_latest le ?_
  have := t.le_latest
  unfold monthShiftedSeconds secondOfDay at last
  unfold days at earlier
  omega

end Instant

/-! ### Calendar months -/

namespace Civil

/-- A valid date moved by whole months is the valid date of the month that many months away,
on the same day or on that month's last day when it is shorter. -/
theorem Date.addMonths_valid_index_day {date : Date} (valid : date.Valid) (months : Int) :
    (date.addMonths months).Valid ∧
      (date.addMonths months).monthIndex = date.monthIndex + months ∧
      (date.addMonths months).day =
        min date.day (monthLength (date.addMonths months).year (date.addMonths months).month) := by
  have length := monthLength_ge ((date.monthIndex + months) / 12)
    (((date.monthIndex + months) % 12).toNat + 1)
  have := valid.day_pos
  rw [Date.addMonths_eq]
  refine ⟨⟨Nat.le_add_left 1 _, ?_, ?_, Nat.min_le_right _ _⟩, monthIndex_mk _ _, rfl⟩
  · show ((date.monthIndex + months) % 12).toNat + 1 ≤ 12
    omega
  · show 1 ≤ min date.day _
    omega

/-- A valid date moved forward by whole months is no earlier. -/
theorem Date.toDays_le_addMonths {date : Date} (valid : date.Valid) (months : Nat) :
    date.toDays ≤ (date.addMonths months).toDays := by
  have bracket := Date.toDays_bracket valid
  have days := Date.toDays_eq valid.month_pos valid.month_le
  have day := valid.day_le
  have parts := Date.monthIndex_parts valid.month_pos valid.month_le
  rw [Date.toDays_addMonths]
  by_cases none : months = 0
  · subst none
    simp only [Int.natCast_zero, Int.add_zero]
    rw [parts.1, parts.2]
    omega
  · -- the target month starts after the date's month ends
    have mono := monthStart_strictMono.monotone
      (show date.monthIndex + 1 ≤ date.monthIndex + months by omega)
    have := Nat.le_min.2 ⟨valid.day_pos, Nat.le_trans (by decide : 1 ≤ 28) (monthLength_ge
      ((date.monthIndex + months) / 12) (((date.monthIndex + months) % 12).toNat + 1))⟩
    omega

/-- A valid date moved one month on lies at least 28 days later: a month has at least 28 days,
and a day cut to the next month's length still lies that far on. -/
theorem Date.toDays_add_28_le_addMonths_one {date : Date} (valid : date.Valid) :
    date.toDays + 28 ≤ (date.addMonths 1).toDays := by
  have days := Date.toDays_eq valid.month_pos valid.month_le
  have parts := Date.monthIndex_parts valid.month_pos valid.month_le
  have length := monthStart_succ date.monthIndex
  have day := valid.day_le
  have nextLength := monthLength_ge ((date.monthIndex + 1) / 12) (((date.monthIndex + 1) % 12).toNat + 1)
  have thisLength := monthLength_ge date.year date.month
  rw [parts.1, parts.2] at length
  rw [Date.toDays_addMonths]
  push_cast
  omega

end Civil

namespace Instant

/-- Valid parts a minute or more after an instant's saturate to a later minute, or to the latest
instant. -/
theorem lt_toMinutes_ofPartsSaturating {t : Instant} {seconds : Int} {nanos : Nat}
    (valid : NanosValid seconds nanos) (later : t.seconds + 60 ≤ seconds) :
    t.toMinutes < (ofPartsSaturating seconds nanos).toMinutes ∨
      ofPartsSaturating seconds nanos = latest := by
  by_cases inRange : PartsInRange seconds nanos
  · left
    have parts := ofPartsSaturating_of_inRange valid inRange
    unfold toMinutes
    rw [parts.1]
    omega
  · exact Or.inr (ofPartsSaturating_of_not_inRange (by have := t.earliest_le; omega) inRange)

/-- Moving forward by whole months never gives an earlier instant. -/
theorem le_addMonths {t : Instant} (le : t ≤ latest) (months : Nat) : t ≤ t.addMonths months := by
  have later := Civil.Date.toDays_le_addMonths (Civil.Date.valid_ofDays t.days) months
  rw [Civil.Date.toDays_ofDays] at later
  change t.days ≤ (t.date.addMonths months).toDays at later
  rw [addMonths_eq_ofPartsSaturating]
  apply le_ofPartsSaturating le
  unfold monthShiftedSeconds secondOfDay
  unfold days at later
  omega

end Instant

/-! ### Buckets -/

namespace Granularity

variable (t : Instant) (n : Nat)

/-- Hours, days and weeks move by `n` buckets of fixed length, the nanoseconds kept, except an
hour's move from a leap second. -/
theorem increment_fixed {g : Granularity} (fixed : g ≠ month) (le : t ≤ Instant.latest)
    (plain : g ≠ hour ∨ t.inLeapSecond = false ∨ n = 0) :
    g.increment t n = Instant.ofPartsSaturating (t.seconds + n * g.minutesPerUnit * 60) t.nanos := by
  cases g with
  | hour =>
    simp only [ne_eq, not_true_eq_false, false_or] at plain
    rw [increment, Instant.addMinutes_eq_ofPartsSaturating t _ le (by rcases plain with p | p <;> simp [p])]
    simp only [minutesPerHour, minutesPerUnit]
    congr 1
  | day =>
    rw [increment, Instant.addDays_eq_ofPartsSaturating t n le]
    simp only [minutesPerUnit]
    congr 1
    omega
  | week =>
    rw [increment, Instant.addDays_eq_ofPartsSaturating t (7 * n) le]
    simp only [minutesPerUnit]
    congr 1
    omega
  | month => exact absurd rfl fixed

theorem decrement_fixed {g : Granularity} (fixed : g ≠ month) (le : t ≤ Instant.latest)
    (plain : g ≠ hour ∨ t.inLeapSecond = false ∨ n = 0) :
    g.decrement t n = Instant.ofPartsSaturating (t.seconds - n * g.minutesPerUnit * 60) t.nanos := by
  cases g with
  | hour =>
    simp only [ne_eq, not_true_eq_false, false_or] at plain
    rw [decrement, Instant.addMinutes_eq_ofPartsSaturating t _ le (by rcases plain with p | p <;> simp [p])]
    simp only [minutesPerHour, minutesPerUnit]
    congr 1
    omega
  | day =>
    rw [decrement, Instant.subDays_eq_ofPartsSaturating t n le]
    simp only [minutesPerUnit]
    congr 1
    omega
  | week =>
    rw [decrement, Instant.subDays_eq_ofPartsSaturating t (7 * n) le]
    simp only [minutesPerUnit]
    congr 1
    omega
  | month => exact absurd rfl fixed

theorem increment_hour_of_inLeapSecond (leap : t.inLeapSecond = true) (pos : 0 < n) :
    hour.increment t n = Instant.ofPartsSaturating (t.seconds + n * 3600) t.subsecond := by
  rw [increment, Instant.addMinutes_of_inLeapSecond t _ leap (by simp only [minutesPerHour]; omega)]
  simp only [minutesPerHour, show ¬ (n : Int) * 60 < 0 by omega, if_false]
  congr 1
  omega

theorem decrement_hour_of_inLeapSecond (leap : t.inLeapSecond = true) (pos : 0 < n) :
    hour.decrement t n = Instant.ofPartsSaturating (t.seconds + 1 - n * 3600) t.subsecond := by
  rw [decrement, Instant.addMinutes_of_inLeapSecond t _ leap (by simp only [minutesPerHour]; omega)]
  simp only [minutesPerHour, show -(n : Int) * 60 < 0 by omega, if_true]
  congr 1
  omega

/-- Going back by whole buckets is decrementing, except for days and weeks from a leap second. -/
theorem subtractIntervals_eq_decrement (g : Granularity) (le : t ≤ Instant.latest)
    (same : g = hour ∨ g = month ∨ t.inLeapSecond = false ∨ n = 0) :
    g.subtractIntervals t n = g.decrement t n := by
  cases g with
  | hour =>
    simp only [subtractIntervals, decrement, minutesPerUnit, minutesPerHour]
    congr 1
    omega
  | month => rfl
  | day =>
    simp only [reduceCtorEq, false_or] at same
    rw [decrement_fixed t n (by decide) le (Or.inl (by decide))]
    simp only [subtractIntervals]
    rw [Instant.addMinutes_eq_ofPartsSaturating t _ le (by rcases same with p | p <;> simp [p])]
    congr 1
    simp only [minutesPerUnit]
    omega
  | week =>
    simp only [reduceCtorEq, false_or] at same
    rw [decrement_fixed t n (by decide) le (Or.inl (by decide))]
    simp only [subtractIntervals]
    rw [Instant.addMinutes_eq_ofPartsSaturating t _ le (by rcases same with p | p <;> simp [p])]
    congr 1
    simp only [minutesPerUnit]
    omega

/-- From a leap second, going back by whole buckets moves by minutes and leaves the leap second. -/
theorem subtractIntervals_of_inLeapSecond {g : Granularity} (fixed : g ≠ month)
    (leap : t.inLeapSecond = true) (pos : 0 < n) :
    g.subtractIntervals t n =
      Instant.ofPartsSaturating (t.seconds + 1 - n * g.minutesPerUnit * 60) t.subsecond := by
  have unit : 0 < g.minutesPerUnit := by cases g <;> decide
  have moving : -(((n * g.minutesPerUnit : Nat)) : Int) ≠ 0 := by
    have := Nat.mul_pos pos unit
    omega
  cases g with
  | month => exact absurd rfl fixed
  | _ =>
    simp only [subtractIntervals]
    rw [Instant.addMinutes_of_inLeapSecond t _ leap moving, if_pos (by omega)]
    congr 1
    push_cast
    ring

/-- Once a fixed-length move lands exactly, moving back as many buckets returns to the start. -/
theorem decrement_increment_fixed {g : Granularity} (fixed : g ≠ month) (le : t ≤ Instant.latest)
    (plain : g ≠ hour ∨ t.inLeapSecond = false ∨ n = 0)
    (exactSeconds : (g.increment t n).seconds = t.seconds + n * g.minutesPerUnit * 60)
    (exactNanos : (g.increment t n).nanos = t.nanos) :
    g.decrement (g.increment t n) n = t := by
  have movedPlain : g ≠ hour ∨ (g.increment t n).inLeapSecond = false ∨ n = 0 := by
    unfold Instant.inLeapSecond
    rw [exactNanos]
    exact plain
  have movedLe : g.increment t n ≤ Instant.latest := by
    rw [increment_fixed t n fixed le plain]
    exact Instant.ofPartsSaturating_le_latest _ _
  rw [decrement_fixed (g.increment t n) n fixed movedLe movedPlain, exactSeconds, exactNanos,
    Int.add_sub_cancel, Instant.ofPartsSaturating_self le]

/-- Decrementing never gives a later instant. -/
theorem decrement_le (g : Granularity) : g.decrement t n ≤ t := by
  cases g with
  | hour => exact t.addSeconds_le (by simp only [minutesPerHour]; omega)
  | day =>
    simp only [decrement, Instant.subDays]
    exact t.atEarlier_le (by omega)
  | week =>
    simp only [decrement, Instant.subDays]
    exact t.atEarlier_le (by omega)
  | month => exact t.subMonths_le n

/-- Incrementing never gives an earlier instant. -/
theorem le_increment (g : Granularity) (le : t ≤ Instant.latest) : t ≤ g.increment t n := by
  cases g with
  | month => exact Instant.le_addMonths le n
  | hour =>
    by_cases plain : t.inLeapSecond = false ∨ n = 0
    · rw [increment_fixed t n (by decide) le (Or.inr plain)]
      exact Instant.le_ofPartsSaturating le (by simp only [minutesPerUnit]; omega)
    · simp only [not_or, Bool.not_eq_false] at plain
      obtain ⟨leap, moving⟩ := plain
      have pos : 0 < n := by omega
      rw [increment_hour_of_inLeapSecond t n leap pos]
      exact Instant.le_ofPartsSaturating le (Or.inl (by omega))
  | day =>
    rw [increment_fixed t n (by decide) le (Or.inl (by decide))]
    exact Instant.le_ofPartsSaturating le (by simp only [minutesPerUnit]; omega)
  | week =>
    rw [increment_fixed t n (by decide) le (Or.inl (by decide))]
    exact Instant.le_ofPartsSaturating le (by simp only [minutesPerUnit]; omega)

/-- One bucket on from an instant of the range lies in a later minute, or is the latest instant. -/
theorem lt_toMinutes_increment_one (g : Granularity) {t : Instant} (le : t ≤ Instant.latest) :
    t.toMinutes < (g.increment t 1).toMinutes ∨ g.increment t 1 = Instant.latest := by
  cases g with
  | month =>
    have later := Civil.Date.toDays_add_28_le_addMonths_one (Civil.Date.valid_ofDays t.days)
    rw [Civil.Date.toDays_ofDays] at later
    change t.days + 28 ≤ (t.date.addMonths 1).toDays at later
    rw [increment, Instant.addMonths_eq_ofPartsSaturating]
    refine Instant.lt_toMinutes_ofPartsSaturating
      (Instant.nanosValid_of_emod (t.monthShiftedSeconds_emod _) t.nanos_valid) ?_
    unfold Instant.monthShiftedSeconds Instant.secondOfDay
    unfold Instant.days at later
    rw [Nat.cast_one]
    omega
  | hour =>
    by_cases leap : t.inLeapSecond = true
    · rw [increment_hour_of_inLeapSecond t 1 leap Nat.one_pos]
      exact Instant.lt_toMinutes_ofPartsSaturating (Instant.nanosValid_of_lt t.subsecond_lt)
        (by omega)
    · rw [increment_fixed t 1 (by decide) le (Or.inr (Or.inl (by simpa using leap)))]
      exact Instant.lt_toMinutes_ofPartsSaturating
        (Instant.nanosValid_of_emod (by simp only [minutesPerUnit]; omega) t.nanos_valid)
        (by simp only [minutesPerUnit]; omega)
  | day =>
    rw [increment_fixed t 1 (by decide) le (Or.inl (by decide))]
    exact Instant.lt_toMinutes_ofPartsSaturating
      (Instant.nanosValid_of_emod (by simp only [minutesPerUnit]; omega) t.nanos_valid)
      (by simp only [minutesPerUnit]; omega)
  | week =>
    rw [increment_fixed t 1 (by decide) le (Or.inl (by decide))]
    exact Instant.lt_toMinutes_ofPartsSaturating
      (Instant.nanosValid_of_emod (by simp only [minutesPerUnit]; omega) t.nanos_valid)
      (by simp only [minutesPerUnit]; omega)

/-- What moving an instant by `n` buckets of `g` does, each move against the rule
`Instant.ofPartsSaturating`. -/
structure MovesByBuckets (g : Granularity) (t : Instant) (n : Nat) : Prop where
  /-- Going back by whole buckets is decrementing, except for days and weeks from a leap second. -/
  subtract_eq_decrement : g = hour ∨ g = month ∨ t.inLeapSecond = false ∨ n = 0 →
    g.subtractIntervals t n = g.decrement t n
  /-- From a leap second, days and weeks go back by minutes and leave the leap second. -/
  subtract_from_leap : g ≠ month → t.inLeapSecond = true → 0 < n →
    g.subtractIntervals t n =
      Instant.ofPartsSaturating (t.seconds + 1 - n * g.minutesPerUnit * 60) t.subsecond
  /-- Hours, days and weeks move forward by `n` bucket lengths, the nanoseconds kept, saturated. -/
  increment_fixed_eq : g ≠ month → (g ≠ hour ∨ t.inLeapSecond = false ∨ n = 0) →
    g.increment t n = Instant.ofPartsSaturating (t.seconds + n * g.minutesPerUnit * 60) t.nanos
  /-- Hours, days and weeks move back by `n` bucket lengths, the nanoseconds kept, saturated. -/
  decrement_fixed_eq : g ≠ month → (g ≠ hour ∨ t.inLeapSecond = false ∨ n = 0) →
    g.decrement t n = Instant.ofPartsSaturating (t.seconds - n * g.minutesPerUnit * 60) t.nanos
  /-- A fixed-length move that lands exactly comes back by decrementing. -/
  round_trip : g ≠ month → (g ≠ hour ∨ t.inLeapSecond = false ∨ n = 0) →
    (g.increment t n).seconds = t.seconds + n * g.minutesPerUnit * 60 →
    (g.increment t n).nanos = t.nanos → g.decrement (g.increment t n) n = t
  /-- From a leap second an hour's move forward counts from the second it extends. -/
  increment_hour_from_leap : g = hour → t.inLeapSecond = true → 0 < n →
    g.increment t n = Instant.ofPartsSaturating (t.seconds + n * 3600) t.subsecond
  /-- From a leap second an hour's move back counts from the second after it. -/
  decrement_hour_from_leap : g = hour → t.inLeapSecond = true → 0 < n →
    g.decrement t n = Instant.ofPartsSaturating (t.seconds + 1 - n * 3600) t.subsecond
  /-- Months move the date forward by calendar months, at the same time of day, saturated. -/
  increment_month_eq : g = month →
    g.increment t n =
      Instant.ofPartsSaturating ((t.date.addMonths n).toDays * 86400 + t.secondOfDay) t.nanos
  /-- Months move the date back by calendar months, at the same time of day, saturated. -/
  decrement_month_eq : g = month →
    g.decrement t n =
      Instant.ofPartsSaturating ((t.date.addMonths (-(n : Int))).toDays * 86400 + t.secondOfDay)
        t.nanos
  /-- A date moved by calendar months lands in the month that many months away, on the same day or
  on that month's last day. -/
  month_target : g = month → ∀ months : Int, (t.date.addMonths months).Valid ∧
    (t.date.addMonths months).monthIndex = t.date.monthIndex + months ∧
    (t.date.addMonths months).day =
      min t.date.day (Civil.monthLength (t.date.addMonths months).year (t.date.addMonths months).month)
  decrement_le_self : g.decrement t n ≤ t
  le_increment_self : t ≤ g.increment t n
  le_lookForwardUntil : t ≤ g.lookForwardUntil t

/-- Every move of an instant of the range by whole buckets follows `MovesByBuckets`. -/
theorem moves_saturate_keep_fraction (g : Granularity) (t : Instant) (n : Nat)
    (inRange : t ≤ Instant.latest) : g.MovesByBuckets t n where
  subtract_eq_decrement := subtractIntervals_eq_decrement t n g inRange
  subtract_from_leap fixed := subtractIntervals_of_inLeapSecond t n fixed
  increment_fixed_eq fixed := increment_fixed t n fixed inRange
  decrement_fixed_eq fixed := decrement_fixed t n fixed inRange
  round_trip fixed := decrement_increment_fixed t n fixed inRange
  increment_hour_from_leap := by
    rintro rfl
    exact increment_hour_of_inLeapSecond t n
  decrement_hour_from_leap := by
    rintro rfl
    exact decrement_hour_of_inLeapSecond t n
  increment_month_eq := by
    rintro rfl
    exact Instant.addMonths_eq_ofPartsSaturating t n
  decrement_month_eq := by
    rintro rfl
    exact Instant.subMonths_eq_ofPartsSaturating t n inRange
  month_target _ := Civil.Date.addMonths_valid_index_day (Civil.Date.valid_ofDays t.days)
  decrement_le_self := decrement_le t n g
  le_increment_self := le_increment t n g inRange
  le_lookForwardUntil := le_increment t g.lookForwardPeriods g inRange

/-- Three days back from the leap second at the end of 29 February 2024, read as an instant of
the range. -/
theorem moves_saturate_keep_fraction_leapSecond :
    Instant.ofPartsSaturating 1709251199 1250000000 ≤ Instant.latest ∧
      day.MovesByBuckets (Instant.ofPartsSaturating 1709251199 1250000000) 3 :=
  ⟨Instant.ofPartsSaturating_le_latest _ _, moves_saturate_keep_fraction day _ 3
    (Instant.ofPartsSaturating_le_latest _ _)⟩

/-- From the leap second at the end of 29 February 2024, going back three days by whole buckets
leaves the leap second and lands a second later than decrementing by three days, which keeps it. -/
theorem subtractIntervals_day_leapSecond :
    (Instant.ofPartsSaturating 1709251199 1250000000).inLeapSecond = true ∧
      (day.subtractIntervals (Instant.ofPartsSaturating 1709251199 1250000000) 3).seconds =
        1708992000 ∧
      (day.subtractIntervals (Instant.ofPartsSaturating 1709251199 1250000000) 3).nanos =
        250000000 ∧
      (day.decrement (Instant.ofPartsSaturating 1709251199 1250000000) 3).seconds = 1708991999 ∧
      (day.decrement (Instant.ofPartsSaturating 1709251199 1250000000) 3).nanos = 1250000000 ∧
      day.subtractIntervals (Instant.ofPartsSaturating 1709251199 1250000000) 3 ≠
        day.decrement (Instant.ofPartsSaturating 1709251199 1250000000) 3 := by
  decide

end Granularity

end Cadence
