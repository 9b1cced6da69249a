import DiagramLint.Check
import DiagramLint.Proofs.BodyRows
import Mathlib.Algebra.GroupWithZero.Nat
import Mathlib.Data.List.Basic

/-!
# The findings of a block

Both checks go through the lines of a block and make at most one finding on each.
For a timeline that step is `Timeline.findingUnder?` on the task of the line, for a quadrant
chart `Quadrant.findingOn?`; `Block.findingOn?` is the one that the block is checked by, and
the findings of a block are its results in the order of the lines (`findings_checkBlock`):
where a finding points, how many there are and in which order they come is read off the lines.

Whether a line draws a finding depends on its text and, for a timeline, on the minutes
of all tasks; the place of the block plays no part.  `Timeline.Overflows` and
`Quadrant.Offends` say it of the rows of a body, and `Body.defects` counts those rows by
the word that announces the chart (`length_findings_checkBlock`).
-/

namespace DiagramLint

namespace Quadrant

/-- The finding that the check of a quadrant chart makes on a line, if it makes one. -/
def findingOn? (previewLength index : Nat) (l : Line) : Option Finding :=
  ((Structure.ofText? l.text).filter fun _ => hasNonAscii l.text).map
    (offence index previewLength l)

theorem findingOn?_eq_some_iff {previewLength index : Nat} {l : Line} {f : Finding} :
    findingOn? previewLength index l = some f ↔
      ∃ kind, Structure.ofText? l.text = some kind ∧ (∃ c ∈ l.text, 127 < c.toNat) ∧
        f = offence index previewLength l kind := by
  simp only [findingOn?, Option.map_eq_some_iff, Option.filter_eq_some_iff, hasNonAscii,
    List.any_eq_true, decide_eq_true_eq]
  constructor
  · rintro ⟨kind, ⟨hkind, hchar⟩, rfl⟩
    exact ⟨kind, hkind, hchar, rfl⟩
  · rintro ⟨kind, hkind, hchar, rfl⟩
    exact ⟨kind, ⟨hkind, hchar⟩, rfl⟩

theorem span_of_findingOn? {previewLength index : Nat} {l : Line} {f : Finding}
    (h : findingOn? previewLength index l = some f) : f.label.map Label.span = some l.span := by
  obtain ⟨kind, -, -, rfl⟩ := findingOn?_eq_some_iff.mp h
  rfl

/-- The check of a quadrant chart makes at most one finding on each line. -/
theorem findings_check (previewLength : Nat) (b : Block) :
    (check previewLength b).findings = b.lines.filterMap (findingOn? previewLength b.index) := by
  rw [check, Outcome.findings_ofFindings, findings, Block.structuralLines, List.filter_filterMap,
    List.map_filterMap]
  refine List.filterMap_congr fun l _ => ?_
  unfold findingOn?
  cases Structure.ofText? l.text with
  | none => rfl
  | some kind => by_cases h : hasNonAscii l.text <;> simp [Option.filter, h]

end Quadrant

namespace Timeline

/-- The finding on a task of a chart with `total` minutes, unless its label fits. -/
def findingUnder? (index : Nat) (m : Metrics Float) (total : Nat) (t : Task) : Option Finding :=
  if m.Fits t.label t.minutes total then none else some (overflow index m total t)

theorem findingUnder?_eq_none_iff {index : Nat} {m : Metrics Float} {total : Nat} {t : Task} :
    findingUnder? index m total t = none ↔ m.Fits t.label t.minutes total := by
  unfold findingUnder?
  split <;> simp_all

theorem findingUnder?_eq_some_iff {index : Nat} {m : Metrics Float} {total : Nat} {t : Task}
    {f : Finding} : findingUnder? index m total t = some f ↔
      ¬ m.Fits t.label t.minutes total ∧ f = overflow index m total t := by
  unfold findingUnder?
  split <;> simp_all [eq_comm]

/-- **The findings are those on the tasks, in order.** -/
theorem findings_eq_filterMap (index : Nat) (m : Metrics Float) (tasks : List Task) :
    findings index m tasks = tasks.filterMap (findingUnder? index m (totalMinutes tasks)) := by
  rw [findings, ← List.filterMap_eq_map, List.filterMap_filter]
  refine List.filterMap_congr fun t _ => ?_
  unfold findingUnder?
  by_cases h : m.Fits t.label t.minutes (totalMinutes tasks) <;> simp [h]

end Timeline

namespace Block

variable (s : Settings) (b : Block)

/-- The finding that the check of a block makes on a line, if it makes one. -/
def findingOn? (l : Line) : Option Finding :=
  match b.chart with
  | .gantt =>
      (Task.ofLine? l).bind
        (Timeline.findingUnder? b.index s.metrics (Timeline.totalMinutes b.tasks))
  | .quadrant => Quadrant.findingOn? s.previewLength b.index l
  | .other _ => none

/-- On a line of a timeline: the finding on its task, if the label does not fit. -/
theorem findingOn?_gantt {s : Settings} {b : Block} (h : b.chart = .gantt) {l : Line}
    {f : Finding} : b.findingOn? s l = some f ↔
      ∃ t, Task.ofLine? l = some t ∧
        ¬ s.metrics.labelWidth t.label ≤
          s.metrics.barWidth t.minutes (Timeline.totalMinutes b.tasks) ∧
        f = Timeline.overflow b.index s.metrics (Timeline.totalMinutes b.tasks) t := by
  simp only [findingOn?, h, Option.bind_eq_some_iff, Timeline.findingUnder?_eq_some_iff]
  rfl

/-- On a line of a quadrant chart: the finding on what it declares, if it has a character
above U+007F. -/
theorem findingOn?_quadrant {s : Settings} {b : Block} (h : b.chart = .quadrant) {l : Line}
    {f : Finding} : b.findingOn? s l = some f ↔
      ∃ kind, Structure.ofText? l.text = some kind ∧ (∃ c ∈ l.text, 127 < c.toNat) ∧
        f = Quadrant.offence b.index s.previewLength l kind := by
  rw [← Quadrant.findingOn?_eq_some_iff, findingOn?, h]

theorem findings_timelineCheck (m : Metrics Float) :
    (Timeline.check m b).findings = Timeline.findings b.index m b.tasks := by
  unfold Timeline.check
  split
  · rename_i hnil
    rw [hnil]
    rfl
  · exact Outcome.findings_ofFindings _ _ _ _

/-- **The findings of a block are those on its lines, in order.** -/
theorem findings_checkBlock : (checkBlock s b).findings = b.lines.filterMap (b.findingOn? s) := by
  unfold checkBlock findingOn?
  cases b.chart with
  | gantt =>
    simp only [findings_timelineCheck, Timeline.findings_eq_filterMap]
    -- the count of the minutes stays as it is while the tasks are read off the lines
    generalize Timeline.totalMinutes b.tasks = total
    rw [tasks, List.filterMap_filterMap]
  | quadrant => exact Quadrant.findings_check s.previewLength b
  | other token => simp

/-- The note on the block when there are no findings on it. -/
def note : PassNote :=
  match b.chart with
  | .gantt =>
      if b.tasks = [] then .noTasks else Timeline.note b.tasks
  | .quadrant => .clean
  | .other _ => .uninspected

/-- **What a check makes of a block**: a failure with the findings on its lines, or a pass with
its note when there are none, under the number and the chart of the block. -/
theorem checkBlock_eq :
    checkBlock s b = .ofFindings b.index b.chart (b.lines.filterMap (b.findingOn? s)) b.note := by
  rw [← findings_checkBlock]
  unfold checkBlock note
  cases b.chart with
  | gantt =>
    simp only [Timeline.check]
    split
    · rename_i hnil
      rw [if_pos hnil]
      rfl
    · rename_i hne
      rw [if_neg hne, Outcome.findings_ofFindings]
  | quadrant => simp only [Quadrant.check, Outcome.findings_ofFindings]
  | other token => rfl

theorem index_checkBlock : (checkBlock s b).index = b.index := by
  rw [checkBlock_eq, Outcome.index_ofFindings]

theorem chart_checkBlock : (checkBlock s b).chart = b.chart := by
  rw [checkBlock_eq, Outcome.chart_ofFindings]

/-- A block passes exactly when there are no findings on it. -/
theorem isPass_checkBlock : (checkBlock s b).isPass = (checkBlock s b).findings.isEmpty := by
  rw [checkBlock_eq, Outcome.isPass_ofFindings, Outcome.findings_ofFindings]

end Block

/-! ## The tasks of a body -/

namespace Timeline

/-- The labels and minutes of the task rows of a body. -/
def entries (body : Text) : List (Text × Nat) := (Text.rows body).filterMap (Task.splitFrom [])

/-- The minutes of all tasks of a body together, held within the range of durations. -/
def bodyMinutes (body : Text) : Nat :=
  min ((entries body).map Prod.snd).sum (durationBound - 1)

/-- The row is a task whose label does not fit the bar that its minutes have out of all
minutes of a chart. -/
def Overflows (m : Metrics Float) (total : Nat) (row : Text) : Prop :=
  ∃ e ∈ Task.splitFrom [] row, ¬ m.labelWidth e.1 ≤ m.barWidth e.2 total

instance (m : Metrics Float) (total : Nat) (row : Text) : Decidable (Overflows m total row) :=
  inferInstanceAs (Decidable (∃ e ∈ Task.splitFrom [] row, _))

/-- Holding the sum within the range after each task is the same as doing so once. -/
theorem totalMinutes_eq (tasks : List Task) :
    totalMinutes tasks = min (tasks.map Task.minutes).sum (durationBound - 1) := by
  -- from any start within the range; the first minutes may already leave it
  have step : ∀ (tasks : List Task) (start : Nat), start ≤ durationBound - 1 →
      tasks.foldl (fun total t => min (total + t.minutes) (durationBound - 1)) start =
        min (start + (tasks.map Task.minutes).sum) (durationBound - 1) := by
    intro tasks
    induction tasks with
    | nil =>
      intro start hstart
      simp only [List.foldl_nil, List.map_nil, List.sum_nil]
      omega
    | cons t tasks ih =>
      intro start _
      rw [List.foldl_cons, ih _ (Nat.min_le_right _ _), List.map_cons, List.sum_cons]
      omega
  rw [totalMinutes, step tasks 0 (Nat.zero_le _), Nat.zero_add]

theorem map_entry_tasks (b : Block) :
    b.tasks.map (fun t => (t.label, t.minutes)) = entries b.body := by
  rw [Block.tasks, List.map_filterMap, entries, ← map_text_lines b.span.start b.body,
    List.filterMap_map]
  refine List.filterMap_congr fun l _ => ?_
  simp only [Task.ofLine?, Option.map_map, Function.comp_apply]
  cases Task.splitFrom [] l.text <;> rfl

theorem totalMinutes_tasks (b : Block) : totalMinutes b.tasks = bodyMinutes b.body := by
  rw [totalMinutes_eq, bodyMinutes, ← map_entry_tasks, List.map_map]
  rfl

end Timeline

/-- The row is structural and has a character above U+007F. -/
def Quadrant.Offends (row : Text) : Prop :=
  (Structure.ofText? row).isSome = true ∧ ∃ c ∈ row, 127 < c.toNat

instance (row : Text) : Decidable (Quadrant.Offends row) :=
  inferInstanceAs (Decidable (_ ∧ _))

theorem Quadrant.isSome_findingOn?_iff {previewLength index : Nat} {l : Line} :
    (findingOn? previewLength index l).isSome = true ↔ Offends l.text := by
  rw [Option.isSome_iff_exists, Offends, Option.isSome_iff_exists]
  simp only [findingOn?_eq_some_iff]
  constructor
  · rintro ⟨f, kind, hkind, hchar, -⟩
    exact ⟨⟨kind, hkind⟩, hchar⟩
  · rintro ⟨⟨kind, hkind⟩, hchar⟩
    exact ⟨_, kind, hkind, hchar, rfl⟩

/-! ## How many findings there are -/

/-- The number of rows of a body that a check objects to, by the first word of the
body. -/
def defects (m : Metrics Float) (body : Text) : Nat :=
  if Text.firstWord body = Chart.ganttToken then
    (Text.rows body).countP fun row => Timeline.Overflows m (Timeline.bodyMinutes body) row
  else if Text.firstWord body = Chart.quadrantToken then
    (Text.rows body).countP fun row => Quadrant.Offends row
  else 0

theorem isSome_findingOn?_gantt {s : Settings} {b : Block} (h : b.chart = .gantt) (l : Line) :
    (b.findingOn? s l).isSome = true ↔
      Timeline.Overflows s.metrics (Timeline.bodyMinutes b.body) l.text := by
  rw [Option.isSome_iff_exists, ← Timeline.totalMinutes_tasks]
  simp only [Block.findingOn?_gantt h, Task.ofLine?, Option.map_eq_some_iff]
  constructor
  · rintro ⟨f, t, ⟨e, hsplit, rfl⟩, hwide, -⟩
    exact ⟨e, hsplit, hwide⟩
  · rintro ⟨e, hsplit, hwide⟩
    exact ⟨_, ⟨e.1, e.2, l.span⟩, ⟨e, hsplit, rfl⟩, hwide, rfl⟩

theorem isSome_findingOn?_quadrant {s : Settings} {b : Block} (h : b.chart = .quadrant)
    (l : Line) : (b.findingOn? s l).isSome = true ↔ Quadrant.Offends l.text := by
  rw [Block.findingOn?, h]
  exact Quadrant.isSome_findingOn?_iff

/-- **A block has as many findings as its body has defects.** -/
theorem length_findings_checkBlock (s : Settings) (b : Block) :
    (checkBlock s b).findings.length = defects s.metrics b.body := by
  rw [Block.findings_checkBlock, List.length_filterMap_eq_countP]
  -- the chart of the block and the defects of its body go by the same word
  have hchart : b.chart = Chart.ofToken (Text.firstWord b.body) := by
    rw [Block.chart, Chart.classify, Chart.leadingToken_eq]
  unfold Chart.ofToken at hchart
  rw [defects, ← map_text_lines b.span.start b.body, List.countP_map, List.countP_map]
  split
  · rename_i hword
    rw [if_pos hword] at hchart
    exact List.countP_congr fun l _ => by
      simpa using isSome_findingOn?_gantt hchart l
  · rename_i hword
    rw [if_neg hword] at hchart
    split
    · rename_i hword
      rw [if_pos hword] at hchart
      exact List.countP_congr fun l _ => by
        simpa using isSome_findingOn?_quadrant hchart l
    · rename_i hword
      rw [if_neg hword] at hchart
      refine List.countP_eq_zero.mpr fun l _ => ?_
      simp [Block.findingOn?, hchart]

theorem defects_trim (m : Metrics Float) (body : Text) :
    defects m (Text.trim body) = defects m body := by
  have hminutes : Timeline.bodyMinutes (Text.trim body) = Timeline.bodyMinutes body := by
    rw [Timeline.bodyMinutes, Timeline.entries, Text.rows_trim, Timeline.bodyMinutes,
      Timeline.entries]
  simp only [defects, Text.firstWord_trim, Text.rows_trim, hminutes]

theorem defects_pos_iff {m : Metrics Float} {body : Text} :
    0 < defects m body ↔
      (Text.firstWord body = Chart.ganttToken ∧
        ∃ row ∈ Text.rows body, Timeline.Overflows m (Timeline.bodyMinutes body) row) ∨
      (Text.firstWord body = Chart.quadrantToken ∧
        ∃ row ∈ Text.rows body, Quadrant.Offends row) := by
  have hne : Chart.ganttToken ≠ Chart.quadrantToken := by decide
  unfold defects
  split
  · rename_i hword
    simp [hword, hne, List.countP_pos_iff]
  · rename_i hword
    split
    · rename_i hword'
      simp [hword', hne.symm, List.countP_pos_iff]
    · rename_i hword'
      simp [hword, hword']

end DiagramLint
