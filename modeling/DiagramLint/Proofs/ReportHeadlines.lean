import DiagramLint.Proofs.ReportLines
import DiagramLint.Proofs.TallyHistory

/-!
# The report and the diagnostics say the same

A finding is shown in two ways.  The line of the report takes the number and the chart from
the outcome, and the message from the finding; the headline of the diagnostic takes all three
from the finding.  The two agree because a check writes into its findings what it writes into
its outcome (`Outcome.Coherent`), which is seen block by block (`coherent_checkBlock`) and
stays true however the outcomes of checks are gathered (`Tally.Session.coherent`).

The lines are looked up in what the error stream has received: they are the rows that begin
with the mark of a finding (`findingRows`).  No message has a newline in it, and the summary
has another mark, so these rows are one for each finding (`findingRows_report`).
-/

namespace DiagramLint

/-! ## Rows that begin with the mark of a finding -/

/-- What stands in front of a finding in a report. -/
def findingMark : Text := [' ', ' ', '✗', ' ', ' ']

/-- The rows of a text that begin with the mark of a finding. -/
def findingRows (t : Text) : List Text :=
  (t.splitOn '\n').filter fun row => findingMark.isPrefixOf row

theorem findingRows_append_newline (x y : Text) :
    findingRows (x ++ '\n' :: y) = findingRows x ++ findingRows y := by
  rw [findingRows, List.splitOn_append_cons_self, List.filter_append]
  rfl

theorem findingRows_of_not_mem {row : Text} (h : '\n' ∉ row) :
    findingRows row = if findingMark.isPrefixOf row then [row] else [] := by
  rw [findingRows, List.splitOn_eq_singleton h]
  by_cases hmark : findingMark.isPrefixOf row <;> simp [hmark]

/-- Lines with the mark are found again in front of any text. -/
theorem findingRows_terminated_append {rows : List String} (rest : String)
    (hline : ∀ row ∈ rows, OneLine row)
    (hmark : ∀ row ∈ rows, findingMark.isPrefixOf row.toList = true) :
    findingRows (terminated rows ++ rest).toList =
      rows.map String.toList ++ findingRows rest.toList := by
  induction rows with
  | nil => simp [terminated]
  | cons row rows ih =>
    obtain ⟨hline, hlines⟩ := List.forall_mem_cons.mp hline
    obtain ⟨hmark, hmarks⟩ := List.forall_mem_cons.mp hmark
    have hsplit : (terminated (row :: rows) ++ rest).toList =
        row.toList ++ '\n' :: (terminated rows ++ rest).toList := by
      simp [terminated]
    rw [hsplit, findingRows_append_newline, findingRows_of_not_mem hline, if_pos hmark,
      ih hlines hmarks]
    rfl

/-- The summary is not taken for a finding. -/
theorem findingRows_summary (t : Tally) :
    findingRows (Record.textOn .err [t.summary]).toList = [] := by
  rw [Tally.textOn_err_summary]
  split
  · decide
  · -- what stands between the newlines is one row with another mark
    let row := "❌  " ++ toString t.findingCount ++ " error(s) found in " ++
      toString t.diagramCount ++ " diagrams — fix before committing"
    have hline : OneLine row := by
      simp only [row, OneLine.append_iff, OneLine.toString_nat, and_true]
      decide
    have hmark : findingMark.isPrefixOf row.toList = false := by
      simp only [row, String.toList_append]
      rfl
    have hsplit : ("\n❌  " ++ toString t.findingCount ++ " error(s) found in " ++
        toString t.diagramCount ++ " diagrams — fix before committing\n\n").toList =
        [] ++ '\n' :: (row.toList ++ '\n' :: ['\n']) := by
      simp [row]
    rw [hsplit, findingRows_append_newline, findingRows_append_newline,
      findingRows_of_not_mem hline, hmark]
    rfl

/-! ## Outcomes whose findings agree with them -/

/-- The finding repeats what the outcome says of its diagram, and has the code that goes with
its chart. -/
structure Finding.Repeats (o : Outcome) (f : Finding) : Prop where
  index : f.index = o.index
  chart : f.chart = o.chart
  labelOverflow : f.code = .labelOverflow ↔ o.chart = .gantt
  nonAscii : f.code = .nonAscii ↔ o.chart = .quadrant

/-- The findings of the outcome repeat what it says, each in one line; charts that are not
looked into, and no others, pass with a note on that. -/
structure Outcome.Coherent (o : Outcome) : Prop where
  findings : ∀ f ∈ o.findings, f.Repeats o
  oneLine : ∀ row ∈ o.failLines, OneLine row
  uninspected : o.verdict = .passed .uninspected ↔ ∃ token, o.chart = .other token

namespace Outcome

variable {o : Outcome}

/-- The lines of the report on a coherent outcome are the headlines of its diagnostics. -/
theorem Coherent.failLines_eq (h : o.Coherent) :
    o.failLines = o.findings.map fun f => "  ✗  " ++ f.headline := by
  refine List.map_congr_left fun f hf => ?_
  have hrepeats := h.findings f hf
  rw [subject, Finding.headline, hrepeats.index, hrepeats.chart]
  simp only [String.append_assoc]

theorem findingMark_isPrefixOf_failLines :
    ∀ row ∈ o.failLines, findingMark.isPrefixOf row.toList = true := by
  intro row hrow
  obtain ⟨f, -, rfl⟩ := List.mem_map.mp hrow
  simp [findingMark]

theorem findings_of_uninspected (h : o.verdict = .passed .uninspected) : o.findings = [] := by
  rw [findings, h]

end Outcome

namespace Block

variable (s : Settings) (b : Block)

/-- A finding on a line repeats what the outcome of the block says. -/
theorem repeats_of_reports {s : Settings} {b : Block} {l : Line} {f : Finding}
    (h : f.Reports s b l) : f.Repeats (checkBlock s b) := by
  have hindex : f.index = (checkBlock s b).index := h.label.1.trans (b.index_checkBlock s).symm
  have hchart : (checkBlock s b).chart = b.chart := b.chart_checkBlock s
  rcases h with ⟨hgantt, t, -, rfl⟩ | ⟨hquadrant, kind, -, -, rfl⟩
  · rw [hgantt] at hchart
    refine ⟨hindex, hchart.symm, ?_, ?_⟩
    · simp [hchart, Timeline.overflow]
    · simp [hchart, Timeline.overflow]
  · rw [hquadrant] at hchart
    refine ⟨hindex, hchart.symm, ?_, ?_⟩
    · simp [hchart, Quadrant.offence]
    · simp [hchart, Quadrant.offence]

theorem note_eq_uninspected_iff {b : Block} :
    b.note = .uninspected ↔ ∃ token, b.chart = .other token := by
  unfold note
  cases b.chart with
  | gantt => by_cases htasks : b.tasks = [] <;> simp [htasks, Timeline.note]
  | quadrant => simp
  | other token => simp

/-- **The outcome of a check is coherent**, whatever the block and the settings. -/
theorem coherent_checkBlock : (checkBlock s b).Coherent := by
  refine ⟨?_, ?_, ?_⟩
  · intro f hf
    rw [findings_checkBlock] at hf
    obtain ⟨l, -, hl⟩ := List.mem_filterMap.mp hf
    exact repeats_of_reports (reports_of_findingOn? hl)
  · have hlines := forall₂_failLines s b
    rw [Outcome.failLines, List.forall₂_map_left_iff, List.forall₂_map_right_iff,
      List.forall₂_same] at hlines
    intro row hrow
    obtain ⟨f, hf, rfl⟩ := List.mem_map.mp hrow
    exact (hlines f hf).1.oneLine
  · rw [chart_checkBlock, ← note_eq_uninspected_iff, checkBlock_eq,
      Outcome.verdict_ofFindings_eq_passed_iff, and_iff_right_iff_imp, note_eq_uninspected_iff]
    rintro ⟨token, hchart⟩
    refine List.filterMap_eq_nil_iff.mpr fun l _ => ?_
    rw [findingOn?, hchart]

end Block

/-! ## What is gathered from checks -/

namespace Tally

/-- What can be gathered from checks, each with settings of its own: the tally of a source,
to which blocks that were checked, and the outcomes of further sources, are added. -/
inductive Session : Tally → Prop
  | empty : Session .empty
  | check (s : Settings) (source : Text) : Session (DiagramLint.check s source)
  | push {t : Tally} (ht : Session t) (s : Settings) (b : Block) :
      Session (t.push (checkBlock s b))
  | append {t : Tally} (ht : Session t) (s : Settings) (source : Text) :
      Session (t.append (DiagramLint.check s source).outcomes.toList)

/-- The outcome of a check. -/
def Checked (o : Outcome) : Prop := ∃ s b, o = checkBlock s b

theorem built_check (s : Settings) (source : Text) :
    ∃ os, Built Checked os (DiagramLint.check s source) := by
  refine ⟨_, .collect fun o ho => ?_⟩
  obtain ⟨b, -, rfl⟩ := List.mem_map.mp ho
  exact ⟨s, b, rfl⟩

/-- A session builds its tally from outcomes of checks. -/
theorem Session.built {t : Tally} (h : t.Session) : ∃ os, Built Checked os t := by
  induction h with
  | empty => exact ⟨[], .empty⟩
  | check s source => exact built_check s source
  | push _ s b ih =>
    obtain ⟨os, hos⟩ := ih
    exact ⟨_, hos.push ⟨s, b, rfl⟩⟩
  | append _ s source ih =>
    obtain ⟨os, hos⟩ := ih
    obtain ⟨os', hos'⟩ := built_check s source
    exact ⟨_, hos.append hos'⟩

/-- **All outcomes of a session are coherent.** -/
theorem Session.coherent {t : Tally} (h : t.Session) :
    ∀ o ∈ t.outcomes.toList, o.Coherent := by
  obtain ⟨os, hbuilt⟩ := h.built
  rw [hbuilt.of.outcomes]
  intro o ho
  obtain ⟨s, b, rfl⟩ := hbuilt.made_of_mem o ho
  exact b.coherent_checkBlock s

/-- The findings of a tally in order, each with the outcome that it belongs to. -/
def attributed (t : Tally) : List (Outcome × Finding) :=
  t.outcomes.toList.flatMap fun o => o.findings.map fun f => (o, f)

theorem map_finding_attributed (t : Tally) :
    t.attributed.map (fun p => Diagnostic.finding p.2) = t.diagnostics := by
  simp only [attributed, diagnostics, findings, List.map_flatMap, List.map_map,
    Function.comp_def]

variable {t : Tally}

/-- **The rows on findings in a report** are the headlines of the diagnostics. -/
theorem findingRows_report (h : ∀ o ∈ t.outcomes.toList, o.Coherent) :
    findingRows (Record.textOn .err t.report).toList =
      t.diagnostics.map fun d => ("  ✗  " ++ d.headline).toList := by
  have hlines : (t.outcomes.toList.flatMap fun o => o.linesOn .err) =
      t.diagnostics.map fun d => "  ✗  " ++ d.headline := by
    rw [diagnostics, findings, List.map_map, List.map_flatMap]
    exact List.flatMap_congr fun o ho => (h o ho).failLines_eq
  rw [textOn_report, findingRows_terminated_append, findingRows_summary, List.append_nil, hlines,
    List.map_map]
  · rfl
  · intro row hrow
    obtain ⟨o, ho, hrow⟩ := List.mem_flatMap.mp hrow
    exact (h o ho).oneLine row hrow
  · intro row hrow
    obtain ⟨o, -, hrow⟩ := List.mem_flatMap.mp hrow
    exact Outcome.findingMark_isPrefixOf_failLines row hrow

end Tally

theorem Code.name_eq_iff (c c' : Code) : c.name = c'.name ↔ c = c' := by
  cases c <;> cases c' <;> decide

/-- **The report and the diagnostics agree.**  Whatever was gathered in a session, on streams
with room for the report the rows on findings that the error stream receives are the headlines
of the diagnostics behind their marks, one for each and in the same order.  The diagnostic of a
finding has the code E100 exactly when its outcome is that of a timeline, and E200 exactly when
it is that of a quadrant chart; outcomes of charts that are not looked into have none. -/
theorem report_agrees_with_diagnostics {t : Tally} (h : t.Session) {c : Console}
    (hc : c.HasRoom t.report) :
    ∃ out err : String, c.deliver t.report = (c.add out err, .ok ()) ∧
      findingRows err.toList = t.diagnostics.map (fun d => ("  ✗  " ++ d.headline).toList) ∧
      t.diagnostics = t.attributed.map (fun p => Diagnostic.finding p.2) ∧
      (∀ p ∈ t.attributed, p.1 ∈ t.outcomes.toList ∧ p.2 ∈ p.1.findings ∧
        ((Diagnostic.finding p.2).code = "E100" ↔ p.1.chart = .gantt) ∧
        ((Diagnostic.finding p.2).code = "E200" ↔ p.1.chart = .quadrant)) ∧
      ∀ o ∈ t.outcomes.toList,
        (o.verdict = .passed .uninspected ↔ ∃ token, o.chart = .other token) ∧
        (o.verdict = .passed .uninspected → o.findings = []) := by
  have hcoherent := h.coherent
  refine ⟨_, _, Console.deliver_of_hasRoom hc, Tally.findingRows_report hcoherent,
    t.map_finding_attributed.symm, ?_, ?_⟩
  · intro p hp
    obtain ⟨o, ho, hp⟩ := List.mem_flatMap.mp hp
    obtain ⟨f, hf, rfl⟩ := List.mem_map.mp hp
    have hrepeats := (hcoherent o ho).findings f hf
    refine ⟨ho, hf, ?_, ?_⟩
    · rw [← hrepeats.labelOverflow]
      exact f.code.name_eq_iff .labelOverflow
    · rw [← hrepeats.nonAscii]
      exact f.code.name_eq_iff .nonAscii
  · intro o ho
    exact ⟨(hcoherent o ho).uninspected, Outcome.findings_of_uninspected⟩

/-- A source with one finding, a timeline that was checked on a narrow grid, and another
source with a finding. -/
def gatheredTally : Tally :=
  ((check .default pieAndQuadrant).push
      (checkBlock { Settings.default with metrics := ⟨64, 8, 14⟩ }
        (.ofRaw 3 0 "gantt\n A long label: a, 0, 1m".toList))).append
    (check .default "diagram: `quadrantChart\n y-axis é`".toList).outcomes.toList

/-- The three findings that were gathered are shown on three rows, the first of which is about
the second diagram of the first source; the finding in the middle is that of a timeline. -/
theorem report_agrees_with_diagnostics_of_gatheredTally :
    gatheredTally.Session ∧
    ∃ out err : String, (Console.ofCapacities none none).deliver gatheredTally.report =
        ((Console.ofCapacities none none).add out err, .ok ()) ∧
      (findingRows err.toList).length = 3 ∧
      (findingRows err.toList).head? =
        some "  ✗  [2] quadrantChart: non-ASCII in structural line — \"x-axis é\"".toList ∧
      gatheredTally.attributed.map (fun p => (Diagnostic.finding p.2).code) =
        ["E200", "E100", "E200"] ∧
      ∀ p ∈ gatheredTally.attributed, (Diagnostic.finding p.2).code = "E100" →
        p.1.chart = .gantt := by
  have hsession : gatheredTally.Session := ((Tally.Session.check _ _).push _ _).append _ _
  have hcodes : gatheredTally.diagnostics.map Diagnostic.code = ["E200", "E100", "E200"] := by
    decide +kernel
  have hhead : gatheredTally.diagnostics.head?.map (fun d => ("  ✗  " ++ d.headline).toList) =
      some "  ✗  [2] quadrantChart: non-ASCII in structural line — \"x-axis é\"".toList := by
    decide +kernel
  obtain ⟨out, err, hdeliver, hrows, hdiagnostics, hattributed, -⟩ :=
    report_agrees_with_diagnostics hsession (Console.Unbounded.ofCapacities.hasRoom _)
  refine ⟨hsession, out, err, hdeliver, ?_, ?_, ?_, ?_⟩
  · rw [hrows, List.length_map, ← List.length_map Diagnostic.code, hcodes]
    rfl
  · rw [hrows, List.head?_map, hhead]
  · rw [hdiagnostics, List.map_map] at hcodes
    exact hcodes
  · intro p hp hcode
    obtain ⟨-, -, hgantt, -⟩ := hattributed p hp
    exact hgantt.mp hcode

end DiagramLint
