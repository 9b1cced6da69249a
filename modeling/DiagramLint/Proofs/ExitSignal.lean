import DiagramLint.Proofs.BlockFindings
import DiagramLint.Proofs.Extraction
import DiagramLint.Proofs.TallyCounts

/-!
# What the exit code of a run means

The exit code is described through the literals of the source and the rows of their
bodies, with nothing of the search, the blocks and the tally in between.  Each literal
contributes the defects of its body (`findings_of_leftmost`), whatever the settings are:
widths need not be numbers, and the field may be empty, in which case the source has no
literals.
-/

namespace DiagramLint

/-- The outcomes of a run have as many findings as the bodies of the literals have
defects. -/
theorem findings_of_leftmost {s : Settings} {source : Text} {places : List Placed}
    (h : Leftmost s.marker source 0 places) :
    ((check s source).outcomes.toList.map fun o => o.findings.length) =
      places.map fun p => defects s.metrics p.literal.body := by
  rw [outcomes_check, extract_eq_of_leftmost h, blocksFrom, List.map_map]
  refine List.ext_getElem (by simp) fun k hk _ => ?_
  simp only [List.getElem_mapIdx, List.getElem_map, Function.comp_apply,
    length_findings_checkBlock]
  exact defects_trim s.metrics _

/-- **The exit code of a run.**  With the literals that a reader from left to right comes
across, the run ends with one exactly when the body of one of them is announced as a
timeline and has a task row whose label does not fit its bar, or is announced as a
quadrant chart and has a structural row with a character above U+007F; otherwise it ends
with zero.  The findings are counted literal by literal, and a body that announces
anything else has none. -/
theorem exitCode_check (s : Settings) (source : Text) :
    ∃ places, Leftmost s.marker source 0 places ∧
      ((check s source).exitCode = 1 ↔ ∃ p ∈ places,
        (Text.firstWord p.literal.body = Chart.ganttToken ∧
          ∃ row ∈ Text.rows p.literal.body,
            Timeline.Overflows s.metrics (Timeline.bodyMinutes p.literal.body) row) ∨
        (Text.firstWord p.literal.body = Chart.quadrantToken ∧
          ∃ row ∈ Text.rows p.literal.body, Quadrant.Offends row)) ∧
      ((check s source).exitCode = 1 ∨ (check s source).exitCode = 0) ∧
      ((check s source).outcomes.toList.map fun o => o.findings.length) =
        (places.map fun p => defects s.metrics p.literal.body) ∧
      (check s source).findingCount =
        (places.map fun p => defects s.metrics p.literal.body).sum ∧
      ∀ (k : Nat) (p : Placed) (o : Outcome), places[k]? = some p →
        (check s source).outcomes.toList[k]? = some o →
        Text.firstWord p.literal.body ≠ Chart.ganttToken →
        Text.firstWord p.literal.body ≠ Chart.quadrantToken → o.findings = [] := by
  obtain ⟨places, hleft, -⟩ := exists_leftmost_extract s.marker source
  have hcount : (check s source).findingCount =
      (places.map fun p => defects s.metrics p.literal.body).sum := by
    rw [findingCount_check, findings_of_leftmost hleft]
  refine ⟨places, hleft, ?_, ?_, findings_of_leftmost hleft, hcount, ?_⟩
  · rw [Tally.exitCode_eq_one_iff, hcount, List.sum_pos_iff_exists_pos_nat]
    simp only [List.mem_map, exists_exists_and_eq_and, defects_pos_iff]
  · have hle := (check s source).exitCode_le_one
    omega
  · -- the number of findings of an outcome is known, and here it is zero
    intro k p o hp ho hgantt hquadrant
    have hk := congrArg (fun counts => counts[k]?) (findings_of_leftmost hleft)
    simp only [List.getElem?_map, hp, ho, Option.map_some, Option.some.injEq] at hk
    rw [defects, if_neg hgantt, if_neg hquadrant] at hk
    exact List.eq_nil_of_length_eq_zero hk

end DiagramLint
