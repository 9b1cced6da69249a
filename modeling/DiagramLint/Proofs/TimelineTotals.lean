import DiagramLint.Proofs.BlockFindings
import DiagramLint.Proofs.TaskLines
import Mathlib.Algebra.BigOperators.Ring.List
import Mathlib.Algebra.Order.BigOperators.Group.List
import Mathlib.Algebra.Order.Field.Basic
import Mathlib.Algebra.Order.Field.Rat
import Mathlib.Algebra.Order.Group.Nat

/-!
# The minutes of a timeline

The tasks of a timeline follow one another, so the minutes of the chart are the sum of
theirs.  Each task has a positive number of minutes below `2 ^ 64`, but there may be any
number of tasks, and the sum of their minutes has no bound.  The count of the chart's minutes
stays in the range of durations all the same: it stops at the largest one and never wraps
around (`totalMinutes_eq`).  So it is never less than the minutes of a task
(`le_totalMinutes`), and it falls short of the sum exactly when the sum is out of range
(`totalMinutes_eq_sum_iff`).

A bar is as wide as the task's share of the chart's minutes.  The program computes it in
doubles, where each step rounds.  `Metrics.barWidth` is the same formula in every arithmetic, and
in fractions, which do not round, it is the share times the width of the grid
(`Metrics.barWidth_eq_share`).  Bars of the sum fill the grid; bars of a count that falls short of
the sum are all too wide (`bars_fill_grid_iff`).
-/

namespace DiagramLint

/-- The arithmetic of fractions, in which nothing is rounded. -/
instance Measure.rat : Measure ℚ where
  nothing := 0
  ofMinutes n := n
  decLe := inferInstance

theorem durationBound_pos : 0 < durationBound := by decide

/-- The minutes of a task are positive and in the range of durations. -/
theorem Task.minutes_of_ofLine? {l : Line} {t : Task} (h : ofLine? l = some t) :
    1 ≤ t.minutes ∧ t.minutes < durationBound := by
  obtain ⟨before, after, s, hfirst, hs, rfl⟩ := ofLine?_eq_some_iff.mp h
  exact hs.usable hfirst.holds

theorem Block.minutes_of_mem_tasks {b : Block} {t : Task} (h : t ∈ b.tasks) :
    1 ≤ t.minutes ∧ t.minutes < durationBound := by
  obtain ⟨l, -, hline⟩ := List.mem_filterMap.mp h
  exact Task.minutes_of_ofLine? hline

namespace Timeline

variable {ts : List Task} {t : Task}

theorem totalMinutes_lt (ts : List Task) : totalMinutes ts < durationBound := by
  have hpos := durationBound_pos
  rw [totalMinutes_eq]
  omega

theorem totalMinutes_le_sum (ts : List Task) : totalMinutes ts ≤ (ts.map Task.minutes).sum := by
  rw [totalMinutes_eq]
  exact Nat.min_le_left _ _

/-- **The count is the sum exactly when the sum is in range.** -/
theorem totalMinutes_eq_sum_iff :
    totalMinutes ts = (ts.map Task.minutes).sum ↔ (ts.map Task.minutes).sum < durationBound := by
  have hpos := durationBound_pos
  rw [totalMinutes_eq]
  omega

/-- The count is never less than the minutes of one of the tasks. -/
theorem le_totalMinutes (h : t ∈ ts) (hlt : t.minutes < durationBound) :
    t.minutes ≤ totalMinutes ts := by
  have hsum : t.minutes ≤ (ts.map Task.minutes).sum :=
    List.le_sum_of_mem (List.mem_map_of_mem h)
  rw [totalMinutes_eq]
  omega

/-- There is nothing to divide by zero for: a task has at least one minute. -/
theorem totalMinutes_pos {b : Block} (h : b.tasks ≠ []) : 1 ≤ totalMinutes b.tasks := by
  obtain ⟨t, ht⟩ := List.exists_mem_of_ne_nil _ h
  obtain ⟨hpos, hlt⟩ := Block.minutes_of_mem_tasks ht
  exact hpos.trans (le_totalMinutes ht hlt)

/-! ## Shares, and bars without rounding -/

/-- The share of some minutes in a total, without rounding. -/
def share (minutes total : Nat) : ℚ := minutes / total

theorem sum_shares (ts : List Task) (total : Nat) :
    (ts.map fun t => share t.minutes total).sum = share (ts.map Task.minutes).sum total := by
  induction ts with
  | nil => simp [share]
  | cons t ts ih =>
    rw [List.map_cons, List.sum_cons, ih, List.map_cons, List.sum_cons]
    simp only [share, Nat.cast_add, add_div]

/-- All of a total make up one share of one. -/
theorem share_eq_one_iff {minutes total : Nat} (h : 1 ≤ total) :
    share minutes total = 1 ↔ total = minutes := by
  have hne : (total : ℚ) ≠ 0 := by
    rw [Nat.cast_ne_zero]
    omega
  rw [share, div_eq_one_iff_eq hne, Nat.cast_inj, eq_comm]

/-- The smaller the total, the larger the share. -/
theorem share_le_share_iff {minutes total total' : Nat} (h : 1 ≤ minutes) (ht : 1 ≤ total)
    (ht' : 1 ≤ total') : share minutes total ≤ share minutes total' ↔ total' ≤ total := by
  have hminutes : (0 : ℚ) < minutes := Nat.cast_pos.mpr h
  have htotal : (0 : ℚ) < total := Nat.cast_pos.mpr ht
  have htotal' : (0 : ℚ) < total' := Nat.cast_pos.mpr ht'
  rw [share, share, div_le_div_iff_of_pos_left hminutes htotal htotal', Nat.cast_le]

end Timeline

namespace Metrics

open Timeline

variable (m : Metrics ℚ)

/-- **Without rounding, a bar is the share of the grid.** -/
theorem barWidth_eq_share (minutes total : Nat) :
    m.barWidth minutes total = share minutes total * m.gridWidth :=
  rfl

/-- Bars laid end to end are as wide as one bar of all their minutes. -/
theorem sum_barWidths (ts : List Task) (total : Nat) :
    (ts.map fun t => m.barWidth t.minutes total).sum =
      m.barWidth (ts.map Task.minutes).sum total := by
  simp only [barWidth_eq_share]
  rw [List.sum_map_mul_right, sum_shares]

variable {m} (hgrid : 0 < m.gridWidth)
include hgrid

theorem barWidth_eq_gridWidth_iff {minutes total : Nat} (h : 1 ≤ total) :
    m.barWidth minutes total = m.gridWidth ↔ total = minutes := by
  rw [barWidth_eq_share, mul_eq_right₀ hgrid.ne', share_eq_one_iff h]

theorem barWidth_le_barWidth_iff {minutes total total' : Nat} (h : 1 ≤ minutes) (ht : 1 ≤ total)
    (ht' : 1 ≤ total') :
    m.barWidth minutes total ≤ m.barWidth minutes total' ↔ total' ≤ total := by
  rw [barWidth_eq_share, barWidth_eq_share, mul_le_mul_iff_left₀ hgrid,
    share_le_share_iff h ht ht']

end Metrics

namespace Timeline

/-- **When the bars of a timeline fill its grid.**  The minutes that the check of a timeline
divides by are the sum of the minutes of its tasks, held at the largest number of minutes
there is.  If the sum is in the range of durations, they are that sum, and each label is
measured against the bar of its share in the sum.  Without rounding, the shares add up to one
then, the bars fill the grid, and no share and no bar is larger than in the sum; beyond the range
they do not, and each of them is larger. -/
theorem bars_fill_grid_iff {b : Block} (hne : b.tasks ≠ []) :
    totalMinutes b.tasks = min (b.tasks.map Task.minutes).sum (durationBound - 1) ∧
    (totalMinutes b.tasks = (b.tasks.map Task.minutes).sum ↔
      (b.tasks.map Task.minutes).sum < durationBound) ∧
    ((b.tasks.map fun t => share t.minutes (totalMinutes b.tasks)).sum = 1 ↔
      (b.tasks.map Task.minutes).sum < durationBound) ∧
    (∀ t ∈ b.tasks, (share t.minutes (totalMinutes b.tasks) ≤
        share t.minutes (b.tasks.map Task.minutes).sum ↔
      (b.tasks.map Task.minutes).sum < durationBound)) ∧
    (∀ m : Metrics ℚ, 0 < m.gridWidth →
      ((b.tasks.map fun t => m.barWidth t.minutes (totalMinutes b.tasks)).sum = m.gridWidth ↔
        (b.tasks.map Task.minutes).sum < durationBound) ∧
      ∀ t ∈ b.tasks, (m.barWidth t.minutes (totalMinutes b.tasks) ≤
          m.barWidth t.minutes (b.tasks.map Task.minutes).sum ↔
        (b.tasks.map Task.minutes).sum < durationBound)) ∧
    ((b.tasks.map Task.minutes).sum < durationBound → ∀ m : Metrics Float,
      (check m b).findings =
        b.tasks.filterMap (findingUnder? b.index m (b.tasks.map Task.minutes).sum)) := by
  have htotal := totalMinutes_pos hne
  have hle := totalMinutes_le_sum b.tasks
  have hsum := htotal.trans hle
  -- the count is as large as the sum exactly when the sum is in range
  have hrange : (b.tasks.map Task.minutes).sum ≤ totalMinutes b.tasks ↔
      (b.tasks.map Task.minutes).sum < durationBound := by
    rw [← totalMinutes_eq_sum_iff]
    omega
  refine ⟨totalMinutes_eq b.tasks, totalMinutes_eq_sum_iff, ?_, ?_, ?_, ?_⟩
  · rw [sum_shares, share_eq_one_iff htotal, totalMinutes_eq_sum_iff]
  · intro t ht
    rw [share_le_share_iff (Block.minutes_of_mem_tasks ht).1 htotal hsum, hrange]
  · intro m hgrid
    refine ⟨?_, fun t ht => ?_⟩
    · rw [m.sum_barWidths, Metrics.barWidth_eq_gridWidth_iff hgrid htotal, totalMinutes_eq_sum_iff]
    · rw [Metrics.barWidth_le_barWidth_iff hgrid (Block.minutes_of_mem_tasks ht).1 htotal hsum,
        hrange]
  · intro hlt m
    rw [Block.findings_timelineCheck, findings_eq_filterMap, totalMinutes_eq_sum_iff.mpr hlt]

/-- The longest timeline with two tasks whose minutes are still in range. -/
theorem bars_fill_grid_iff_of_longTasks :
    let b : Block := ⟨1, "gantt\n  A : a, 00:00, 18446744073709551600m\n  B : b, after a, 15m".toList,
      ⟨0, 65⟩⟩
    let m : Metrics ℚ := ⟨700, 8, 16⟩
    b.tasks ≠ [] ∧ totalMinutes b.tasks = 18446744073709551615 ∧
      (b.tasks.map fun t => share t.minutes (totalMinutes b.tasks)).sum = 1 ∧
      (b.tasks.map fun t => m.barWidth t.minutes (totalMinutes b.tasks)).sum = 700 := by
  intro b m
  have hne : b.tasks ≠ [] := by decide +kernel
  have hlt : (b.tasks.map Task.minutes).sum < durationBound := by decide +kernel
  obtain ⟨-, -, hshares, -, hbars, -⟩ := bars_fill_grid_iff hne
  exact ⟨hne, by decide +kernel, hshares.mpr hlt, (hbars m (by decide +kernel)).1.mpr hlt⟩

/-- Two tasks with the largest number of minutes there is. -/
def overlongTimeline : Block :=
  ⟨1, ("gantt\n  A very long descriptive label that keeps going : a, 00:00, 18446744073709551615m\n" ++
    "  B : b, after a, 18446744073709551615m").toList, ⟨0, 128⟩⟩

/-- The count of the minutes stops at those of one task, so each of the two bars is taken to
fill the grid, and a label passes that does not fit into half of it.  In doubles as well, a bar
is twice as wide as in the sum. -/
theorem label_passes_in_overlongTimeline :
    overlongTimeline.tasks ≠ [] ∧
      totalMinutes overlongTimeline.tasks ≠ (overlongTimeline.tasks.map Task.minutes).sum ∧
      (overlongTimeline.tasks.map fun t =>
        share t.minutes (totalMinutes overlongTimeline.tasks)).sum = 2 ∧
      (∃ t ∈ overlongTimeline.tasks,
        share t.minutes (overlongTimeline.tasks.map Task.minutes).sum <
            share t.minutes (totalMinutes overlongTimeline.tasks) ∧
          (Settings.defaultMetrics.barWidth t.minutes
            (overlongTimeline.tasks.map Task.minutes).sum == 350) = true ∧
          (Settings.defaultMetrics.barWidth t.minutes
            (totalMinutes overlongTimeline.tasks) == 700) = true ∧
          ¬ Settings.defaultMetrics.Fits t.label t.minutes
            (overlongTimeline.tasks.map Task.minutes).sum) ∧
      (check Settings.defaultMetrics overlongTimeline).isPass = true := by
  decide +kernel

end Timeline

end DiagramLint
