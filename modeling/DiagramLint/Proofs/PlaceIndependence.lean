import DiagramLint.Proofs.BlockFindings
import DiagramLint.Proofs.Extraction
import DiagramLint.Proofs.TallyCounts
import DiagramLint.Report.Record

/-!
# Places show in labels only

What a run says of a diagram it reads off the rows of its text.  Where the diagram stands,
and how its rows are set apart and indented, shows in the spans of the labels and nowhere
else.  `Outcome.unplaced` forgets these spans.  What is found on a line goes by its text and
has its label on the line (`GoesByText`), in a block of either kind; so blocks with the same
number and the same rows have the same outcome up to these spans
(`Block.unplaced_checkBlock_congr`).

A report shows no spans, so runs whose outcomes differ in spans alone have the same report
(`Tally.report_congr`).
-/

namespace DiagramLint

/-- The finding without the place of its label. -/
def Finding.unplaced (f : Finding) : Finding :=
  { f with label := f.label.map fun l => { l with span := ⟨0, 0⟩ } }

namespace Outcome

/-- The outcome without the places of its labels. -/
def unplaced (o : Outcome) : Outcome :=
  { o with verdict :=
      match o.verdict with
      | .passed note => .passed note
      | .failed findings => .failed (findings.map Finding.unplaced) }

theorem unplaced_ofFindings (i : Nat) (c : Chart) (fs : List Finding) (n : PassNote) :
    (ofFindings i c fs n).unplaced = ofFindings i c (fs.map Finding.unplaced) n := by
  cases fs <;> rfl

theorem findings_unplaced (o : Outcome) :
    o.unplaced.findings = o.findings.map Finding.unplaced := by
  obtain ⟨index, chart, note | findings⟩ := o <;> rfl

/-- The lines of a report do not show places. -/
theorem records_unplaced (o : Outcome) : o.unplaced.records = o.records := by
  obtain ⟨index, chart, note | findings⟩ := o
  · rfl
  · exact List.map_map

end Outcome

/-! ## Findings on lines -/

/-- The finding with its label on another place. -/
def Finding.placed (place : Span) (f : Finding) : Finding :=
  { f with label := f.label.map fun l => { l with span := place } }

theorem Finding.placed_placed (place place' : Span) (f : Finding) :
    (f.placed place).placed place' = f.placed place' := by
  simp [placed, Function.comp_def]

/-- What is found on a line goes by the text of the line, and has its label on the line. -/
def GoesByText (on? : Line → Option Finding) : Prop :=
  ∀ l : Line, on? l = (on? ⟨l.text, ⟨0, 0⟩⟩).map (Finding.placed l.span)

/-- **Up to places, what is found on some lines is what is found on their texts.** -/
theorem GoesByText.map_unplaced {on? : Line → Option Finding} (h : GoesByText on?)
    (ls : List Line) : (ls.filterMap on?).map Finding.unplaced =
      (ls.map Line.text).filterMap fun row => on? ⟨row, ⟨0, 0⟩⟩ := by
  rw [List.map_filterMap, List.filterMap_map]
  refine List.filterMap_congr fun l _ => ?_
  -- to forget a place is to be on the place of the text alone
  have hplace : ∀ o : Option Finding, (o.map (Finding.placed l.span)).map Finding.unplaced =
      o.map (Finding.placed ⟨0, 0⟩) := by
    intro o
    rw [Option.map_map]
    exact congrArg (Option.map · o) (funext (Finding.placed_placed l.span ⟨0, 0⟩))
  rw [h l, hplace, ← h ⟨l.text, ⟨0, 0⟩⟩]
  rfl

/-- Up to places, what is found on the lines of a block is what is found on its rows. -/
theorem GoesByText.map_unplaced_lines {on? : Line → Option Finding} (h : GoesByText on?)
    (b : Block) : (b.lines.filterMap on?).map Finding.unplaced =
      (Text.rows b.body).filterMap fun row => on? ⟨row, ⟨0, 0⟩⟩ := by
  rw [h.map_unplaced, Block.lines, map_text_lines]

theorem Quadrant.goesByText (previewLength index : Nat) :
    GoesByText (findingOn? previewLength index) := by
  intro l
  rw [findingOn?, findingOn?, Option.map_map]
  rfl

theorem Timeline.goesByText (index : Nat) (m : Metrics Float) (total : Nat) :
    GoesByText fun l => (Task.ofLine? l).bind (findingUnder? index m total) := by
  intro l
  simp only [Task.ofLine?]
  cases Task.splitFrom [] l.text with
  | none => rfl
  | some e =>
    simp only [Option.map_some, Option.bind_some, findingUnder?]
    split <;> rfl

theorem Block.goesByText (s : Settings) (b : Block) : GoesByText (b.findingOn? s) := by
  unfold findingOn?
  cases b.chart with
  | gantt => exact Timeline.goesByText b.index s.metrics (Timeline.totalMinutes b.tasks)
  | quadrant => exact Quadrant.goesByText s.previewLength b.index
  | other token => exact fun _ => rfl

/-! ## Blocks with the same rows -/

namespace Timeline

/-- The note on a timeline goes by the minutes of its tasks. -/
theorem note_congr {ts ts' : List Task} (h : ts.map Task.minutes = ts'.map Task.minutes) :
    note ts = note ts' := by
  have hlength : ts.length = ts'.length := by
    rw [← List.length_map Task.minutes, h, List.length_map]
  rw [note, note, totalMinutes_eq, totalMinutes_eq, leastMinutes, leastMinutes, hlength, h]

end Timeline

namespace Block

variable {s : Settings} {a b : Block}

theorem map_minutes_tasks (b : Block) :
    b.tasks.map Task.minutes = (Timeline.entries b.body).map Prod.snd := by
  rw [← Timeline.map_entry_tasks, List.map_map]
  rfl

theorem map_minutes_tasks_congr (h : Text.rows a.body = Text.rows b.body) :
    a.tasks.map Task.minutes = b.tasks.map Task.minutes := by
  rw [map_minutes_tasks, map_minutes_tasks, Timeline.entries, Timeline.entries, h]

theorem chart_congr (h : Text.rows a.body = Text.rows b.body) : a.chart = b.chart := by
  simp only [chart, Chart.classify, Chart.leadingToken_eq, Text.firstWord_eq_head_rows, h]

theorem note_congr (h : Text.rows a.body = Text.rows b.body) : a.note = b.note := by
  have hminutes := map_minutes_tasks_congr h
  have hnil : a.tasks = [] ↔ b.tasks = [] := by
    rw [← List.map_eq_nil_iff, hminutes, List.map_eq_nil_iff]
  simp only [note, chart_congr h, hnil, Timeline.note_congr hminutes]

theorem findingOn?_congr (hindex : a.index = b.index) (h : Text.rows a.body = Text.rows b.body) :
    a.findingOn? s = b.findingOn? s := by
  have htotal : Timeline.totalMinutes a.tasks = Timeline.totalMinutes b.tasks := by
    rw [Timeline.totalMinutes_eq, Timeline.totalMinutes_eq, map_minutes_tasks_congr h]
  funext l
  simp only [findingOn?, chart_congr h, hindex, htotal]

/-- **Blocks with the same number and the same rows have the same outcome**, up to places. -/
theorem unplaced_checkBlock_congr (hindex : a.index = b.index)
    (h : Text.rows a.body = Text.rows b.body) :
    (checkBlock s a).unplaced = (checkBlock s b).unplaced := by
  rw [checkBlock_eq, checkBlock_eq, Outcome.unplaced_ofFindings, Outcome.unplaced_ofFindings,
    (a.goesByText s).map_unplaced_lines, (b.goesByText s).map_unplaced_lines, hindex,
    chart_congr h, note_congr h, findingOn?_congr hindex h, h]

end Block

/-! ## Runs on blocks with the same rows -/

namespace Tally

variable {t t' : Tally}
  (h : t.outcomes.toList.map Outcome.unplaced = t'.outcomes.toList.map Outcome.unplaced)
include h

theorem diagramCount_congr : t.diagramCount = t'.diagramCount := by
  have hlength := congrArg List.length h
  rwa [List.length_map, List.length_map, Array.length_toList, Array.length_toList] at hlength

/-- **A report does not show places.** -/
theorem report_congr (hcount : t.findingCount = t'.findingCount) : t.report = t'.report := by
  have hrecords : ∀ t : Tally, t.outcomes.toList.flatMap Outcome.records =
      (t.outcomes.toList.map Outcome.unplaced).flatMap Outcome.records := by
    intro t
    rw [List.flatMap_map]
    simp only [Outcome.records_unplaced]
  rw [report, report, hrecords t, hrecords t', h, summary, summary, isClean, isClean, hcount,
    diagramCount_congr h]

end Tally

variable {s : Settings} {source source' : Text}

/-- **Sources whose blocks have the same rows have the same outcomes**, up to places. -/
theorem unplaced_outcomes_check_congr
    (h : (extract s.marker source).map (fun b => Text.rows b.body) =
      (extract s.marker source').map fun b => Text.rows b.body) :
    (check s source).outcomes.toList.map Outcome.unplaced =
      (check s source').outcomes.toList.map Outcome.unplaced := by
  have hlength := congrArg List.length h
  simp only [List.length_map] at hlength
  rw [outcomes_check, outcomes_check]
  refine List.ext_getElem (by simpa using hlength) fun k hk hk' => ?_
  simp only [List.length_map] at hk hk'
  simp only [List.getElem_map]
  have hindex := index_of_getElem?_extract (List.getElem?_eq_getElem hk)
  have hindex' := index_of_getElem?_extract (List.getElem?_eq_getElem hk')
  refine Block.unplaced_checkBlock_congr (hindex.trans hindex'.symm) ?_
  have hrows := congrArg (fun rows => rows[k]?) h
  simpa [hk, hk'] using hrows

theorem findingCount_check_congr
    (h : (check s source).outcomes.toList.map Outcome.unplaced =
      (check s source').outcomes.toList.map Outcome.unplaced) :
    (check s source).findingCount = (check s source').findingCount := by
  have hcounts : ∀ source, ((check s source).outcomes.toList.map fun o => o.findings.length) =
      ((check s source).outcomes.toList.map Outcome.unplaced).map fun o => o.findings.length := by
    intro source
    rw [List.map_map]
    refine List.map_congr_left fun o _ => ?_
    rw [Function.comp_apply, Outcome.findings_unplaced, List.length_map]
  rw [findingCount_check, findingCount_check, hcounts, hcounts, h]

end DiagramLint
