import DiagramLint.Diagnostic
import DiagramLint.Proofs.BlockFindings
import DiagramLint.Proofs.Extraction
import DiagramLint.Proofs.TallyCounts

/-!
# Where findings point

The span of a finding has come a long way: a literal at an offset of the source, the
trimmed body in it, a row of that body, the trimmed row.  `Finding.PointsAt` says what
has to hold at the end of it, about the source and the block alone: the label lies on
one whole line of the block and on nothing else, and what a diagnostic cuts out of the
source by it is that line (`Span.Covers.marked`).

Findings of one block come in the order of its lines, and blocks in the order of the
source, so the labels of a run come in order too and do not touch
(`pairwise_label_findings`).
-/

namespace DiagramLint

/-! ## Cutting a source at its bytes -/

namespace Diagnostic

/-- At the end of a piece a text is cut between characters. -/
theorem splitAtByte_append (a b : Text) :
    splitAtByte (Text.byteLength a) (a ++ b) = (a, b) := by
  induction a with
  | nil =>
    cases b with
    | nil => rfl
    | cons c b =>
      have hpos := c.utf8Size_pos
      rw [List.nil_append, Text.byteLength_nil, splitAtByte, if_neg (by omega)]
  | cons c a ih =>
    rw [List.cons_append, Text.byteLength_cons, splitAtByte, if_pos (Nat.le_add_right _ _),
      Nat.add_sub_cancel_left, ih]

/-- The part of a source that a diagnostic marks for a label. -/
def marked (source : Text) (span : Span) : Text :=
  (splitAtByte span.length (splitAtByte span.start source).2).1

end Diagnostic

/-- A span marks the piece that it lies on. -/
theorem Span.Covers.marked {span : Span} {source piece : Text} (h : span.Covers source piece) :
    Diagnostic.marked source span = piece := by
  obtain ⟨before, after, rfl, rfl⟩ := h
  rw [Diagnostic.marked, Span.length_ofPiece, Span.ofPiece, List.append_assoc,
    Diagnostic.splitAtByte_append, Diagnostic.splitAtByte_append]

/-! ## From a finding to its line -/

/-- The finding points at a line of the block: its label has the span of that line, which
is a whole trimmed row of the block's text, and the source has the line's text there and
nothing else. -/
structure Finding.PointsAt (source : Text) (b : Block) (l : Line) (f : Finding) : Prop where
  label : ∃ message, f.label = some ⟨l.span, message⟩
  within : l.Within b.span.start b.body
  newline_not_mem : '\n' ∉ l.text
  covers : l.span.Covers source l.text
  start_lt_stop : l.span.start < l.span.stop
  stop_le : l.span.stop ≤ Text.byteLength source
  start_le_start : b.span.start ≤ l.span.start
  stop_le_stop : l.span.stop ≤ b.span.stop
  /-- The diagnostic of the finding has its label at the offset where the line begins,
  with the line's length, and marks the line. -/
  diagnostic : ∃ label, (Diagnostic.finding f).label = some label ∧
    label.span.start = l.span.start ∧ label.span.length = l.span.stop - l.span.start ∧
    Diagnostic.marked source label.span = l.text

/-- What the finding says of a line of the block: in a timeline, that the task it is when it
is read again does not fit; in a quadrant chart, that it is structural and has a character
above U+007F. -/
def Finding.Reports (s : Settings) (b : Block) (l : Line) (f : Finding) : Prop :=
  (b.chart = .gantt ∧ ∃ t, Task.ofLine? l = some t ∧
      f = Timeline.overflow b.index s.metrics (Timeline.totalMinutes b.tasks) t) ∨
    (b.chart = .quadrant ∧ ∃ kind, Structure.ofText? l.text = some kind ∧
      (∃ c ∈ l.text, 127 < c.toNat) ∧ f = Quadrant.offence b.index s.previewLength l kind)

theorem Task.span_of_ofLine? {l : Line} {t : Task} (h : Task.ofLine? l = some t) :
    t.span = l.span := by
  obtain ⟨e, -, rfl⟩ := Option.map_eq_some_iff.mp h
  rfl

variable {s : Settings} {source : Text} {m : Marker} {b : Block} {l : Line} {f : Finding}

theorem reports_of_findingOn? (h : b.findingOn? s l = some f) : f.Reports s b l := by
  cases hchart : b.chart with
  | gantt =>
    obtain ⟨t, hline, -, hf⟩ := (Block.findingOn?_gantt hchart).mp h
    exact Or.inl ⟨hchart, t, hline, hf⟩
  | quadrant => exact Or.inr ⟨hchart, (Block.findingOn?_quadrant hchart).mp h⟩
  | other token =>
    rw [Block.findingOn?, hchart] at h
    cases h

/-- A finding on a line has the number of the block and a label on that line. -/
theorem Finding.Reports.label (h : f.Reports s b l) :
    f.index = b.index ∧ ∃ message, f.label = some ⟨l.span, message⟩ := by
  rcases h with ⟨-, t, hline, rfl⟩ | ⟨-, kind, -, -, rfl⟩
  · exact ⟨rfl, _, by rw [← Task.span_of_ofLine? hline]; rfl⟩
  · exact ⟨rfl, _, rfl⟩

/-- **Every finding on a line of a block of the source points at that line.** -/
theorem pointsAt_of_findingOn? (hb : b ∈ extract m source) (hl : l ∈ b.lines)
    (h : b.findingOn? s l = some f) : f.PointsAt source b l := by
  obtain ⟨-, message, hlabel⟩ := (reports_of_findingOn? h).label
  obtain ⟨hspan, hcovers⟩ := span_of_mem_extract hb
  have hwithin : l.Within b.span.start b.body := within_of_mem_lines hl
  have hline : l.span.Covers source l.text := hwithin.covers (hspan ▸ hcovers)
  obtain ⟨hstart, hlt, hstop⟩ := hwithin.bounds
  exact {
    label := ⟨message, hlabel⟩
    within := hwithin
    newline_not_mem := hwithin.newline_not_mem
    covers := hline
    start_lt_stop := hlt
    stop_le := hline.stop_le.2
    start_le_start := hstart
    stop_le_stop := by rw [hspan]; exact hstop
    diagnostic := ⟨_, hlabel, rfl, rfl, hline.marked⟩ }

/-! ## The order of the findings of a run -/

theorem findings_check (s : Settings) (source : Text) :
    (check s source).findings =
      (extract s.marker source).flatMap fun b => b.lines.filterMap (b.findingOn? s) := by
  rw [Tally.findings, outcomes_check, List.flatMap_map]
  simp only [Block.findings_checkBlock]

/-- **The labels of a run come in order**, and no two of them touch. -/
theorem pairwise_label_findings (s : Settings) (source : Text) :
    (check s source).findings.Pairwise fun f g =>
      ∀ a ∈ f.label, ∀ a' ∈ g.label, a.span.stop < a'.span.start := by
  have onLine : ∀ {b : Block} {l : Line} {f : Finding} {a : Label},
      b.findingOn? s l = some f → a ∈ f.label → a.span = l.span := by
    intro b l f a h ha
    obtain ⟨-, message, hlabel⟩ := (reports_of_findingOn? h).label
    rw [hlabel, Option.mem_some_iff] at ha
    rw [← ha]
  rw [findings_check, List.pairwise_flatMap]
  constructor
  · -- within a block the labels are in the order of the lines
    intro b _
    refine List.pairwise_filterMap.mpr ((pairwise_lines b.span.start b.body).imp ?_)
    intro l l' hlt f hf f' hf' a ha a' ha'
    rw [onLine hf ha, onLine hf' ha']
    exact hlt
  · -- labels stay inside the blocks, and the blocks are in order
    refine (pairwise_extract s.marker source).imp_of_mem ?_
    intro b b' hb hb' hlt f hf f' hf' a ha a' ha'
    obtain ⟨l, hl, hf⟩ := List.mem_filterMap.mp hf
    obtain ⟨l', hl', hf'⟩ := List.mem_filterMap.mp hf'
    have hstop := (pointsAt_of_findingOn? hb hl hf).stop_le_stop
    have hstart := (pointsAt_of_findingOn? hb' hl' hf').start_le_start
    rw [onLine hf ha, onLine hf' ha']
    omega

theorem exists_pointsAt_of_mem_findings (h : f ∈ (check s source).findings) :
    ∃ b l, f.PointsAt source b l := by
  rw [findings_check, List.mem_flatMap] at h
  obtain ⟨b, hb, hf⟩ := h
  obtain ⟨l, hl, hf⟩ := List.mem_filterMap.mp hf
  exact ⟨b, l, pointsAt_of_findingOn? hb hl hf⟩

/-- **Findings point at the offending lines of the source.**  Outcome `k` of a run is that
of block `k`, both numbered from one, and each of its findings has that number, points at
a line of the block and reports what that line is.  Over the whole run every finding has a
label, and the labels are not empty and come in order, each one behind the end of those
before it. -/
theorem findings_point_at_lines (s : Settings) (source : Text) :
    (check s source).outcomes.toList.length = (extract s.marker source).length ∧
    (∀ (k : Nat) (o : Outcome), (check s source).outcomes.toList[k]? = some o →
      ∃ b, (extract s.marker source)[k]? = some b ∧ b.index = k + 1 ∧ o.index = k + 1 ∧
        ∀ f ∈ o.findings, f.index = k + 1 ∧ ∃ l, f.PointsAt source b l ∧ f.Reports s b l) ∧
    ∃ labels : List Label, (check s source).findings.map Finding.label = labels.map some ∧
      (∀ a ∈ labels, a.span.start < a.span.stop) ∧
      labels.Pairwise fun a a' => a.span.stop < a'.span.start := by
  refine ⟨?_, ?_, (check s source).findings.filterMap Finding.label, ?_, ?_, ?_⟩
  · rw [outcomes_check, List.length_map]
  · intro k o ho
    rw [outcomes_check, List.getElem?_map] at ho
    obtain ⟨b, hb, rfl⟩ := Option.map_eq_some_iff.mp ho
    have hindex := index_of_getElem?_extract hb
    refine ⟨b, hb, hindex, (b.index_checkBlock s).trans hindex, ?_⟩
    intro f hf
    rw [Block.findings_checkBlock] at hf
    obtain ⟨l, hl, hf⟩ := List.mem_filterMap.mp hf
    have hreports := reports_of_findingOn? hf
    exact ⟨hreports.label.1.trans hindex, l,
      pointsAt_of_findingOn? (List.mem_of_getElem? hb) hl hf, hreports⟩
  · -- every finding has a label, so none is lost
    rw [List.map_filterMap]
    refine (List.filterMap_eq_map_iff_forall_eq_some.mpr ?_).symm
    intro f hf
    obtain ⟨b, l, hpoints⟩ := exists_pointsAt_of_mem_findings hf
    obtain ⟨message, hlabel⟩ := hpoints.label
    rw [hlabel]
    rfl
  · intro a ha
    obtain ⟨f, hf, hlabel⟩ := List.mem_filterMap.mp ha
    obtain ⟨b, l, hpoints⟩ := exists_pointsAt_of_mem_findings hf
    obtain ⟨message, hspan⟩ := hpoints.label
    obtain rfl := Option.some.inj (hlabel.symm.trans hspan)
    exact hpoints.start_lt_stop
  · exact List.pairwise_filterMap.mpr (pairwise_label_findings s source)

end DiagramLint
