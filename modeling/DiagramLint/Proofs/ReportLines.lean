import DiagramLint.Proofs.Delivery
import DiagramLint.Proofs.OneLineTexts
import Mathlib.Data.List.Forall2

/-!
# The report, line by line

A report is written record by record to two streams.  What a stream shows in the end is
lines, and a text with a newline in it would make two lines out of one.  Every part of a
record is a text of one line, apart from the newline that ends it.  So the output has
exactly one line for each passing diagram and the error stream exactly one for each finding,
and behind them there is nothing but the summary of the run.
-/

namespace DiagramLint

/-- Lines one below the other, each ended by a newline. -/
def terminated (rows : List String) : String := String.join (rows.map (· ++ "\n"))

/-- A line on the diagram with a number: the number in brackets stands behind a mark, and
there is no newline in the line. -/
structure ReportLine (mark : String) (index : Nat) (row : String) : Prop where
  begins : ∃ rest, row = mark ++ "[" ++ toString index ++ "] " ++ rest
  oneLine : OneLine row

/-! ## The lines of an outcome -/

/-- The record of a line. -/
def Record.line (st : Stream) (row : String) : Record := ⟨st, row ++ "\n"⟩

namespace Outcome

/-- The lines on the output: one for a pass. -/
def passLines (o : Outcome) : List String :=
  match o.verdict with
  | .passed note => ["  ✓  " ++ o.subject ++ note.suffix]
  | .failed _ => []

/-- The lines on the error stream: one for each finding. -/
def failLines (o : Outcome) : List String :=
  o.findings.map fun f => "  ✗  " ++ o.subject ++ ": " ++ f.message

theorem exists_passLines_of_isPass {o : Outcome} (h : o.isPass = true) :
    ∃ note : PassNote, o.passLines = ["  ✓  " ++ o.subject ++ note.suffix] := by
  obtain ⟨index, chart, note | findings⟩ := o
  · exact ⟨note, rfl⟩
  · cases h

theorem passLines_of_not_isPass {o : Outcome} (h : o.isPass = false) : o.passLines = [] := by
  obtain ⟨index, chart, note | findings⟩ := o
  · cases h
  · rfl

/-- The lines on a stream. -/
def linesOn (o : Outcome) : Stream → List String
  | .out => o.passLines
  | .err => o.failLines

theorem records_eq (o : Outcome) :
    o.records = o.passLines.map (Record.line .out) ++ o.failLines.map (Record.line .err) := by
  unfold records passLines failLines findings
  cases o.verdict with
  | passed note => rfl
  | failed findings => simp [Record.line]

end Outcome

theorem Record.textOn_map_line (st st' : Stream) (rows : List String) :
    textOn st (rows.map (line st')) = if st' = st then terminated rows else "" := by
  by_cases h : st' = st <;> simp [textOn, terminated, line, List.filter_map, Function.comp_def, h]

/-- The text of a report on a stream: the lines of the outcomes, and the summary. -/
theorem textOn_report (st : Stream) (t : Tally) :
    Record.textOn st t.report =
      terminated (t.outcomes.toList.flatMap fun o => o.linesOn st) ++
        Record.textOn st [t.summary] := by
  rw [Tally.report, Record.textOn_append]
  congr 1
  induction t.outcomes.toList with
  | nil => rfl
  | cons o os ih =>
    rw [List.flatMap_cons, Record.textOn_append, ih, Outcome.records_eq, Record.textOn_append,
      Record.textOn_map_line, Record.textOn_map_line, List.flatMap_cons]
    cases st <;> simp [terminated, Outcome.linesOn]

namespace Tally

theorem textOn_out_summary (t : Tally) : Record.textOn .out [t.summary] =
    if t.isClean = true then
      "\n✅  All " ++ toString t.diagramCount ++ " diagrams passed\n\n"
    else "" := by
  unfold summary
  split <;> simp [Record.textOn]

theorem textOn_err_summary (t : Tally) : Record.textOn .err [t.summary] =
    if t.isClean = true then ""
    else "\n❌  " ++ toString t.findingCount ++ " error(s) found in " ++
      toString t.diagramCount ++ " diagrams — fix before committing\n\n" := by
  unfold summary
  split <;> simp [Record.textOn]

end Tally

/-! ## The lines of a block -/

namespace Block

variable (s : Settings) (b : Block)

theorem oneLine_subject : OneLine (checkBlock s b).subject := by
  have hname := OneLine.name_chart b
  rw [Outcome.subject, chart_checkBlock]
  simp only [OneLine.append_iff, OneLine.toString_nat, hname, and_true]
  decide

/-- **A passing block has one line, a failing one none.** -/
theorem forall₂_passLines :
    List.Forall₂ (fun b row => ReportLine "  ✓  " b.index row)
      ([b].filter fun b => (checkBlock s b).isPass) (checkBlock s b).passLines := by
  have hsubject := oneLine_subject s b
  cases hpass : (checkBlock s b).isPass with
  | false =>
    rw [Outcome.passLines_of_not_isPass hpass, List.filter_cons_of_neg (by simpa using hpass)]
    exact List.Forall₂.nil
  | true =>
    obtain ⟨note, hlines⟩ := Outcome.exists_passLines_of_isPass hpass
    rw [hlines, List.filter_cons_of_pos (by simpa using hpass)]
    refine List.Forall₂.cons ⟨⟨(checkBlock s b).chart.name ++ note.suffix, ?_⟩, ?_⟩ .nil
    · rw [Outcome.subject, index_checkBlock]
      simp only [String.append_assoc]
    · simp only [OneLine.append_iff, hsubject, OneLine.suffix, and_true]
      decide

/-- **Each finding has one line**, which shows its message. -/
theorem forall₂_failLines :
    List.Forall₂
      (fun p row => ReportLine "  ✗  " p.1.index row ∧ ∃ front, row = front ++ p.2.message)
      ((checkBlock s b).findings.map fun f => (b, f)) (checkBlock s b).failLines := by
  have hsubject := oneLine_subject s b
  rw [Outcome.failLines, List.forall₂_map_left_iff, List.forall₂_map_right_iff, List.forall₂_same]
  intro f hf
  rw [findings_checkBlock] at hf
  obtain ⟨l, hl, hf⟩ := List.mem_filterMap.mp hf
  have hmessage := OneLine.message hl hf
  refine ⟨⟨⟨(checkBlock s b).chart.name ++ (": " ++ f.message), ?_⟩, ?_⟩, _, rfl⟩
  · rw [Outcome.subject, index_checkBlock]
    simp only [String.append_assoc]
  · simp only [OneLine.append_iff, hsubject, hmessage, and_true]
    decide

end Block

/-- Lists that correspond part by part correspond as a whole. -/
theorem forall₂_flatMap {α β γ : Type} {R : β → γ → Prop} {f : α → List β} {g : α → List γ}
    (h : ∀ a, List.Forall₂ R (f a) (g a)) (as : List α) :
    List.Forall₂ R (as.flatMap f) (as.flatMap g) :=
  List.rel_flatMap (List.forall₂_refl as) fun a a' (heq : a = a') => heq ▸ h a

/-- There are as many lines on findings as a run has findings. -/
theorem findingCount_check_eq_length_failLines (s : Settings) (source : Text) :
    (check s source).findingCount =
      ((extract s.marker source).flatMap fun b => (checkBlock s b).failLines).length := by
  rw [findingCount_check, outcomes_check, List.length_flatMap, List.map_map]
  simp only [Outcome.failLines, List.length_map, Function.comp_def]

/-- **The report of a run is made of lines and loses nothing.**  On streams with room for it,
the output receives one line for each passing block and the error stream one for each finding
of each failing block, in order.  Each line begins with its mark and the number of the block
and has no newline in it, whatever the source holds, and that of a finding ends with its
message.  Behind these lines comes one summary, on the output when there are no findings and on
the error stream when there are, with the number of blocks and of lines on findings.  Nothing is
written to the error stream exactly when the run is clean. -/
theorem report_lines (s : Settings) (source : Text) {c : Console}
    (hc : c.HasRoom (check s source).report) :
    ∃ passes fails : List String, ∃ out err : String,
      c.deliver (check s source).report = (c.add out err, .ok ()) ∧
      List.Forall₂ (fun b row => ReportLine "  ✓  " b.index row)
        ((extract s.marker source).filter fun b => (checkBlock s b).isPass) passes ∧
      List.Forall₂
        (fun p row => ReportLine "  ✗  " p.1.index row ∧ ∃ front, row = front ++ p.2.message)
        ((extract s.marker source).flatMap fun b => (checkBlock s b).findings.map fun f => (b, f))
        fails ∧
      (∀ b, (checkBlock s b).isPass = true ↔ (checkBlock s b).findings = []) ∧
      out = terminated passes ++
        (if (check s source).findings = [] then
          "\n✅  All " ++ toString (extract s.marker source).length ++ " diagrams passed\n\n"
        else "") ∧
      err = terminated fails ++
        (if (check s source).findings = [] then ""
        else "\n❌  " ++ toString fails.length ++ " error(s) found in " ++
          toString (extract s.marker source).length ++ " diagrams — fix before committing\n\n") ∧
      (err = "" ↔ (check s source).isClean = true) := by
  have hpasses := forall₂_flatMap (Block.forall₂_passLines s) (extract s.marker source)
  rw [← List.filter_flatMap, List.flatMap_singleton'] at hpasses
  have hfails := forall₂_flatMap (Block.forall₂_failLines s) (extract s.marker source)
  have hcount := findingCount_check_eq_length_failLines s source
  have hdiagrams := diagramCount_check s source
  refine ⟨_, _, _, _, Console.deliver_of_hasRoom hc, hpasses, hfails, ?_, ?_, ?_, ?_⟩
  · intro b
    rw [Block.isPass_checkBlock, List.isEmpty_iff]
  · rw [textOn_report, outcomes_check, List.flatMap_map, Tally.textOn_out_summary, hdiagrams]
    simp only [isClean_check_iff]
    rfl
  · rw [textOn_report, outcomes_check, List.flatMap_map, Tally.textOn_err_summary, hdiagrams,
      hcount]
    simp only [isClean_check_iff]
    rfl
  · rw [textOn_report, outcomes_check, List.flatMap_map, Tally.textOn_err_summary]
    constructor
    · -- the summary of a failing run is not empty
      intro hempty
      by_contra hfailing
      rw [if_neg hfailing, String.append_eq_empty_iff] at hempty
      simp at hempty
    · -- a clean run has no lines on findings
      intro hclean
      rw [if_pos hclean, String.append_empty]
      rw [Tally.isClean, beq_iff_eq, hcount] at hclean
      exact congrArg terminated (List.eq_nil_of_length_eq_zero hclean)

/-- A chart that is not looked into, and a quadrant chart with one finding. -/
def pieAndQuadrant : Text := "diagram: `pie`, diagram: `quadrantChart\n x-axis é`".toList

theorem report_lines_of_pieAndQuadrant :
    ∃ pass fail : String, ReportLine "  ✓  " 1 pass ∧ ReportLine "  ✗  " 2 fail ∧
      (Console.ofCapacities none none).deliver (check .default pieAndQuadrant).report =
        ((Console.ofCapacities none none).add (terminated [pass])
          (terminated [fail] ++
            "\n❌  1 error(s) found in 2 diagrams — fix before committing\n\n"), .ok ()) := by
  obtain ⟨passes, fails, out, err, hdeliver, hpasses, hfails, -, hout, herr, -⟩ :=
    report_lines .default pieAndQuadrant (Console.Unbounded.ofCapacities.hasRoom _)
  -- the first block passes, the second one has the only finding
  have hpass : ((extract Settings.default.marker pieAndQuadrant).filter fun b =>
      (checkBlock .default b).isPass).map Block.index = [1] := by decide +kernel
  have hfail : ((extract Settings.default.marker pieAndQuadrant).flatMap fun b =>
      (checkBlock .default b).findings.map fun f => (b, f)).map (fun p => p.1.index) = [2] := by
    decide +kernel
  have hfindings : (check .default pieAndQuadrant).findings ≠ [] := by decide +kernel
  have htwo : (extract Settings.default.marker pieAndQuadrant).length = 2 := by decide +kernel
  obtain ⟨b, hb, hone⟩ := List.map_eq_singleton_iff.mp hpass
  obtain ⟨p, hp, hsecond⟩ := List.map_eq_singleton_iff.mp hfail
  rw [hb] at hpasses
  rw [hp] at hfails
  obtain ⟨pass, _, hrow, ⟨⟩, rfl⟩ := List.forall₂_cons_left_iff.mp hpasses
  obtain ⟨fail, _, hrow', ⟨⟩, rfl⟩ := List.forall₂_cons_left_iff.mp hfails
  rw [if_neg hfindings, String.append_empty] at hout
  rw [if_neg hfindings, htwo, List.length_singleton] at herr
  exact ⟨pass, fail, hone ▸ hrow, hsecond ▸ hrow'.1, by rw [hdeliver, hout, herr]; rfl⟩

end DiagramLint
