import DiagramLint.Proofs.Extraction
import DiagramLint.Proofs.TallyCounts

/-!
# Appending text to a source

What has been found in a source is found again when text is appended to it, in front of
whatever the longer source has besides.  This is the fact on literals
(`Leftmost.exists_prefix`) carried through the blocks, their outcomes and their number
of findings.
-/

namespace DiagramLint

/-- The outcomes of a source come first among those of a longer one. -/
theorem outcomes_prefix_append (s : Settings) (source more : Text) :
    (check s source).outcomes.toList <+: (check s (source ++ more)).outcomes.toList := by
  rw [outcomes_check, outcomes_check]
  exact (extract_prefix_append source more).map (checkBlock s)

theorem findingCount_le_append (s : Settings) (source more : Text) :
    (check s source).findingCount ≤ (check s (source ++ more)).findingCount := by
  obtain ⟨os, hos⟩ := outcomes_prefix_append s source more
  rw [findingCount_check s (source ++ more), ← hos, List.map_append, List.sum_append,
    ← findingCount_check]
  exact Nat.le_add_right _ _

/-- **Appended text does not disturb what was found.**  The blocks of a source, their
indices, bodies and spans, come first among those of the longer source, and so do their
outcomes; there are no fewer findings, and an exit code of one stays. -/
theorem check_append (source more : Text) :
    (∀ m : Marker, extract m source <+: extract m (source ++ more)) ∧
      ∀ s : Settings,
        (check s source).outcomes.toList <+: (check s (source ++ more)).outcomes.toList ∧
        (check s source).findingCount ≤ (check s (source ++ more)).findingCount ∧
        ((check s source).exitCode = 1 → (check s (source ++ more)).exitCode = 1) := by
  refine ⟨fun m => extract_prefix_append source more, fun s => ?_⟩
  have hle := findingCount_le_append s source more
  refine ⟨outcomes_prefix_append s source more, hle, ?_⟩
  intro hone
  have hpos := Tally.exitCode_eq_one_iff.mp hone
  exact Tally.exitCode_eq_one_iff.mpr (by omega)

end DiagramLint
