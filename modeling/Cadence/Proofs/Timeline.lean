import Cadence.Proofs.Civil
import Cadence.Schedule.Timeline

/-!
# Run points of a timeline

A job runs at its run time and then every bucket of its granularity. `Job.runPoints` lists the
runs that fall in a span of seconds `[start, finish)`: it rolls the run time forward to the first
run at or after `start` (`firstAtOrAfter`, a ceiling division) and lists the runs from there
(`visiblePoints`, as many as a second ceiling division counts). A span with no run shows one
hidden point at its end.

This module shows that the roll forward and the count are exact: the visible points are the runs
of the span and nothing else, in increasing order, and the hidden point stands alone, exactly
when the span holds no run. The arithmetic is on integers, so it holds for every stored run
time, the least and the greatest word included. A timeline is one such list per job, over the
seconds from the present instant to the look-ahead, so none of its series is empty.

Main statement: `Job.runPoints_cadence_timeline`.
-/

namespace Cadence

/-- The job runs at second `x`: at its run time, read in seconds, or a whole number of its
granularity's buckets after it. A job with no run time runs at no second. -/
def Job.RunsAt (job : Job) (x : Int) : Prop :=
  ∃ run, job.effectiveRunTime = some run ∧
    ∃ k : Nat, x = run.val * 60 + k * ((job.granularity.minutesPerUnit : Int) * 60)

/-! ### Points every `step` seconds -/

section Progression

variable {step : Int} (pos : 0 < step)
include pos

/-- The roll forward lands a whole number of steps after the first point. -/
theorem firstAtOrAfter_eq (first start : Int) :
    ∃ j : Nat, firstAtOrAfter first start step = first + j * step := by
  unfold firstAtOrAfter
  split
  · have counted : 0 ≤ (start - first + step - 1) / step := Int.ediv_nonneg (by omega) (by omega)
    exact ⟨((start - first + step - 1) / step).toNat, by rw [Int.toNat_of_nonneg counted]⟩
  · exact ⟨0, by simp⟩

/-- The roll forward reaches the start. -/
theorem le_firstAtOrAfter (first start : Int) : start ≤ firstAtOrAfter first start step := by
  unfold firstAtOrAfter
  split
  · -- the distance rounded up to whole steps covers the distance
    have covers := Int.lt_ediv_add_one_mul_self (start - first + step - 1) pos
    rw [Int.add_mul, Int.one_mul] at covers
    omega
  · omega

/-- The roll forward stops at the first point at or after the start: no later point of the
progression that reaches the start comes before it. -/
theorem firstAtOrAfter_le (first start : Int) (k : Nat) (reaches : start ≤ first + k * step) :
    firstAtOrAfter first start step ≤ first + k * step := by
  have nonneg : 0 ≤ (k : Int) * step := Int.mul_nonneg (Int.natCast_nonneg k) (Int.le_of_lt pos)
  unfold firstAtOrAfter
  split
  · have rounded := Int.ediv_mul_le (start - first + step - 1) (Int.ne_of_gt pos)
    -- rounding up adds less than one step, so it takes at most `k` steps
    have fewer : (start - first + step - 1) / step < k + 1 :=
      Int.lt_of_mul_lt_mul_right (by rw [Int.add_mul, Int.one_mul]; omega) (Int.le_of_lt pos)
    have steps := Int.mul_le_mul_of_nonneg_right (show (start - first + step - 1) / step ≤ k by omega)
      (Int.le_of_lt pos)
    omega
  · omega

/-- A point `i` steps on is counted exactly when it lies before the end. -/
theorem lt_visibleCount_iff (first finish : Int) (i : Nat) :
    i < ((finish - first + step - 1) / step).toNat ↔ first + i * step < finish := by
  rw [Int.lt_toNat, ← Int.add_one_le_iff, Int.le_ediv_iff_mul_le pos, Int.add_mul, Int.one_mul]
  omega

theorem mem_visiblePoints_iff (first finish : Int) (p : Point) :
    p ∈ visiblePoints first finish step ↔
      p.display = true ∧ ∃ i : Nat, p.timestamp = first + i * step ∧ p.timestamp < finish := by
  unfold visiblePoints
  rw [List.mem_map]
  constructor
  · rintro ⟨i, counted, rfl⟩
    exact ⟨rfl, i, rfl, (lt_visibleCount_iff pos first finish i).1 (List.mem_range.1 counted)⟩
  · rintro ⟨shown, i, stamp, before⟩
    refine ⟨i, List.mem_range.2 ((lt_visibleCount_iff pos first finish i).2 (stamp ▸ before)), ?_⟩
    cases p
    simp_all

/-- The visible points rolled forward from `first` to the start are the points of the
progression from `first` that lie in the span. -/
theorem mem_visiblePoints_firstAtOrAfter_iff (first start finish : Int) (p : Point) :
    p ∈ visiblePoints (firstAtOrAfter first start step) finish step ↔
      p.display = true ∧ (∃ k : Nat, p.timestamp = first + k * step) ∧
        start ≤ p.timestamp ∧ p.timestamp < finish := by
  obtain ⟨j, rolled⟩ := firstAtOrAfter_eq pos first start
  have reached := le_firstAtOrAfter pos first start
  rw [mem_visiblePoints_iff pos]
  constructor
  · rintro ⟨shown, i, stamp, before⟩
    have later : 0 ≤ (i : Int) * step := Int.mul_nonneg (Int.natCast_nonneg i) (Int.le_of_lt pos)
    refine ⟨shown, ⟨j + i, ?_⟩, by omega, before⟩
    rw [stamp, rolled, Int.natCast_add, Int.add_mul]
    omega
  · rintro ⟨shown, ⟨k, stamp⟩, atStart, before⟩
    have first_le := firstAtOrAfter_le pos first start k (stamp ▸ atStart)
    -- the point comes no earlier than the first one at or after the start, so `j ≤ k`
    have steps : (j : Int) ≤ k :=
      Int.le_of_mul_le_mul_right (by rw [rolled] at first_le; omega) pos
    refine ⟨shown, k - j, ?_, before⟩
    rw [stamp, rolled, Int.natCast_sub (by omega), Int.sub_mul]
    omega

theorem pairwise_visiblePoints (first finish : Int) :
    (visiblePoints first finish step).Pairwise (fun p q => p.timestamp < q.timestamp) := by
  unfold visiblePoints
  rw [List.pairwise_map]
  exact List.pairwise_lt_range.imp fun earlier =>
    Int.add_lt_add_left (Int.mul_lt_mul_of_pos_right (Int.ofNat_lt.2 earlier) pos) first

theorem visiblePoints_ne_nil {first finish : Int} (before : first < finish) :
    visiblePoints first finish step ≠ [] :=
  List.ne_nil_of_mem ((mem_visiblePoints_iff pos first finish ⟨first, true⟩).2
    ⟨rfl, 0, by simp, before⟩)

end Progression

/-! ### Run points of a job -/

namespace Job

/-- Runs are at least an hour apart. -/
theorem runStep_pos (g : Granularity) : 0 < (g.minutesPerUnit : Int) * 60 := by
  cases g <;> decide

variable (job : Job) (start finish : Word)

theorem runPoints_of_none (unscheduled : job.effectiveRunTime = none) :
    job.runPoints start finish = [⟨finish.val, false⟩] := by
  simp only [runPoints, unscheduled]

theorem runPoints_of_some {run : Word} (scheduled : job.effectiveRunTime = some run) :
    job.runPoints start finish =
      if firstAtOrAfter (run.val * 60) start.val (job.granularity.minutesPerUnit * 60) < finish.val
      then visiblePoints (firstAtOrAfter (run.val * 60) start.val (job.granularity.minutesPerUnit * 60))
        finish.val (job.granularity.minutesPerUnit * 60)
      else [⟨finish.val, false⟩] := by
  simp only [runPoints, scheduled]

theorem runsAt_iff {run : Word} (scheduled : job.effectiveRunTime = some run) (x : Int) :
    job.RunsAt x ↔ ∃ k : Nat, x = run.val * 60 + k * ((job.granularity.minutesPerUnit : Int) * 60) := by
  simp only [RunsAt, scheduled, Option.some.injEq, exists_eq_left']

/-- A span holds a run exactly when the first run at or after its start comes before its end. -/
theorem exists_run_iff {run : Word} (scheduled : job.effectiveRunTime = some run) :
    (∃ x, job.RunsAt x ∧ start.val ≤ x ∧ x < finish.val) ↔
      firstAtOrAfter (run.val * 60) start.val (job.granularity.minutesPerUnit * 60) < finish.val := by
  have pos := runStep_pos job.granularity
  constructor
  · rintro ⟨x, runs, atStart, before⟩
    obtain ⟨k, rfl⟩ := (job.runsAt_iff scheduled x).1 runs
    have := firstAtOrAfter_le pos (run.val * 60) start.val k atStart
    omega
  · intro before
    obtain ⟨j, rolled⟩ := firstAtOrAfter_eq pos (run.val * 60) start.val
    exact ⟨_, (job.runsAt_iff scheduled _).2 ⟨j, rolled⟩, le_firstAtOrAfter pos _ _, before⟩

/-- The visible run points are the runs of the span. -/
theorem mem_runPoints_visible_iff (x : Int) :
    ⟨x, true⟩ ∈ job.runPoints start finish ↔ job.RunsAt x ∧ start.val ≤ x ∧ x < finish.val := by
  cases scheduled : job.effectiveRunTime with
  | none =>
    rw [job.runPoints_of_none start finish scheduled]
    simp [RunsAt, scheduled]
  | some run =>
    rw [job.runPoints_of_some start finish scheduled, job.runsAt_iff scheduled]
    split
    · rw [mem_visiblePoints_firstAtOrAfter_iff (runStep_pos job.granularity)]
      simp
    · rename_i noRun
      simp only [List.mem_singleton, Point.mk.injEq, Bool.true_eq_false, and_false, false_iff]
      exact fun ⟨runs, atStart, before⟩ =>
        noRun ((job.exists_run_iff start finish scheduled).1
          ⟨x, (job.runsAt_iff scheduled x).2 runs, atStart, before⟩)

/-- The span's end stands alone, hidden, exactly when the span holds no run. -/
theorem runPoints_eq_hidden_iff :
    job.runPoints start finish = [⟨finish.val, false⟩] ↔
      ¬ ∃ x, job.RunsAt x ∧ start.val ≤ x ∧ x < finish.val := by
  cases scheduled : job.effectiveRunTime with
  | none =>
    simp [job.runPoints_of_none start finish scheduled, RunsAt, scheduled]
  | some run =>
    rw [job.runPoints_of_some start finish scheduled, job.exists_run_iff start finish scheduled]
    split
    · rename_i before
      -- the visible list holds its first point, which the hidden list does not
      have first := (mem_visiblePoints_iff (runStep_pos job.granularity)
        (firstAtOrAfter (run.val * 60) start.val (job.granularity.minutesPerUnit * 60)) finish.val
        ⟨firstAtOrAfter (run.val * 60) start.val (job.granularity.minutesPerUnit * 60), true⟩).2
        ⟨rfl, 0, by simp, before⟩
      refine iff_of_false (fun hidden => ?_) (not_not.2 before)
      rw [hidden] at first
      simp at first
    · simp_all

/-- Every point is a visible run, or the list is the single hidden end point. -/
theorem runPoints_visible_or_hidden :
    (∀ p ∈ job.runPoints start finish, p.display = true) ∨
      job.runPoints start finish = [⟨finish.val, false⟩] := by
  cases scheduled : job.effectiveRunTime with
  | none => exact Or.inr (job.runPoints_of_none start finish scheduled)
  | some run =>
    rw [job.runPoints_of_some start finish scheduled]
    split
    · exact Or.inl fun p shown =>
        ((mem_visiblePoints_iff (runStep_pos job.granularity) _ _ p).1 shown).1
    · exact Or.inr rfl

theorem pairwise_runPoints :
    (job.runPoints start finish).Pairwise (fun p q => p.timestamp < q.timestamp) := by
  cases scheduled : job.effectiveRunTime with
  | none => simp [job.runPoints_of_none start finish scheduled]
  | some run =>
    rw [job.runPoints_of_some start finish scheduled]
    split
    · exact pairwise_visiblePoints (runStep_pos job.granularity) _ _
    · exact List.pairwise_singleton _ _

theorem runPoints_ne_nil : job.runPoints start finish ≠ [] := by
  rcases job.runPoints_visible_or_hidden start finish with visible | hidden
  · by_cases runs : ∃ x, job.RunsAt x ∧ start.val ≤ x ∧ x < finish.val
    · obtain ⟨x, shown⟩ := runs
      exact List.ne_nil_of_mem ((job.mem_runPoints_visible_iff start finish x).2 shown)
    · rw [(job.runPoints_eq_hidden_iff start finish).2 runs]
      exact List.cons_ne_nil _ _
  · rw [hidden]
    exact List.cons_ne_nil _ _

end Job

/-- A timeline has one series per job, in order: the job's identifier and name and its run
points over the seconds from `now` to the look-ahead. -/
theorem timeline_forall₂ (jobs : List Job) (now : Instant) (lookForward : Granularity) :
    List.Forall₂ (fun job series => series.id = job.id ∧ series.name = job.name ∧
        series.points = job.runPoints now.secondsWord (lookForward.lookForwardUntil now).secondsWord)
      jobs (timeline jobs now lookForward) := by
  unfold timeline
  rw [List.forall₂_map_right_iff]
  exact List.forall₂_same.2 fun _ _ => ⟨rfl, rfl, rfl⟩

namespace Job

/-- The run points of a span are exactly its runs, in increasing order, or the hidden end point
when it holds none; a timeline has one such series per job. -/
theorem runPoints_cadence_timeline (job : Job) (start finish : Word) (jobs : List Job)
    (now : Instant) (lookForward : Granularity) :
    (job.effectiveRunTime = none → job.runPoints start finish = [⟨finish.val, false⟩]) ∧
    (∀ x, ⟨x, true⟩ ∈ job.runPoints start finish ↔
      job.RunsAt x ∧ start.val ≤ x ∧ x < finish.val) ∧
    (job.runPoints start finish).Pairwise (fun p q => p.timestamp < q.timestamp) ∧
    ((∀ p ∈ job.runPoints start finish, p.display = true) ∨
      job.runPoints start finish = [⟨finish.val, false⟩]) ∧
    (job.runPoints start finish = [⟨finish.val, false⟩] ↔
      ¬ ∃ x, job.RunsAt x ∧ start.val ≤ x ∧ x < finish.val) ∧
    List.Forall₂ (fun each series => series.id = each.id ∧ series.name = each.name ∧
        series.points ≠ [] ∧
        ∀ p ∈ series.points, p.display = true →
          now.seconds ≤ p.timestamp ∧ p.timestamp < (lookForward.lookForwardUntil now).seconds)
      jobs (timeline jobs now lookForward) := by
  refine ⟨job.runPoints_of_none start finish, job.mem_runPoints_visible_iff start finish,
    job.pairwise_runPoints start finish,
    job.runPoints_visible_or_hidden start finish, job.runPoints_eq_hidden_iff start finish, ?_⟩
  refine (timeline_forall₂ jobs now lookForward).imp fun each series ⟨id, name, points⟩ =>
    ⟨id, name, points ▸ each.runPoints_ne_nil _ _, fun p shown visible => ?_⟩
  -- a visible point of the series is a run of the span
  rw [points] at shown
  cases p
  cases visible
  exact ((each.mem_runPoints_visible_iff _ _ _).1 shown).2

end Job

end Cadence
