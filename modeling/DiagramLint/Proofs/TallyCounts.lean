import DiagramLint.Check
import Mathlib.Algebra.GroupWithZero.Nat

/-!
# What a tally counts

A tally keeps the number of findings beside the outcomes.  `Tally.Of` says of which outcomes
it is the tally: it holds these, in order, and the number is that of their findings.  Pushing
an outcome preserves this (`Tally.Of.push`), so any pushes do, one after the other
(`Tally.Of.append`).  It follows that the number is that of the findings which are listed,
and that the exit code is one exactly when it is positive.
-/

namespace DiagramLint

namespace Tally

/-- The tally of some outcomes: it holds them in order and counts their findings. -/
structure Of (os : List Outcome) (t : Tally) : Prop where
  outcomes : t.outcomes.toList = os
  count : t.findingCount = (os.map fun o => o.findings.length).sum

namespace Of

variable {os : List Outcome} {t : Tally}

theorem empty : Of [] Tally.empty := ⟨rfl, rfl⟩

/-- The step: an outcome that is pushed adds its findings to the number. -/
theorem push (h : Of os t) (o : Outcome) : Of (os ++ [o]) (t.push o) where
  outcomes := by rw [toList_push, h.outcomes]
  count := by
    rw [Tally.push, h.count, List.map_append, List.sum_append, List.map_singleton,
      List.sum_singleton]

/-- **The tally after some pushes** is that of the outcomes before and those pushed. -/
theorem append (h : Of os t) (os' : List Outcome) : Of (os ++ os') (t.append os') := by
  induction os' generalizing os t with
  | nil =>
    rw [List.append_nil]
    exact h
  | cons o os' ih =>
    rw [List.append_cons]
    exact ih (h.push o)

theorem findings_eq (h : Of os t) : t.findings = os.flatMap Outcome.findings := by
  rw [findings, h.outcomes]

/-- The number that is kept is the number of findings that are listed. -/
theorem length_findings (h : Of os t) : t.findings.length = t.findingCount := by
  rw [h.findings_eq, List.length_flatMap, h.count]

theorem isClean_iff (h : Of os t) : t.isClean = true ↔ t.findings = [] := by
  rw [isClean, beq_iff_eq, ← h.length_findings, List.length_eq_zero_iff]

end Of

theorem of_ofOutcomes (os : List Outcome) : Of os (ofOutcomes os) := Of.empty.append os

theorem exitCode_eq_zero_iff {t : Tally} : t.exitCode = 0 ↔ t.isClean = true := by
  unfold exitCode
  split <;> simp_all

theorem exitCode_eq_one_iff {t : Tally} : t.exitCode = 1 ↔ 0 < t.findingCount := by
  simp only [exitCode, isClean, beq_iff_eq]
  split <;> omega

theorem exitCode_le_one (t : Tally) : t.exitCode ≤ 1 := by
  unfold exitCode
  split <;> omega

end Tally

variable (s : Settings) (source : Text)

theorem of_check : Tally.Of ((extract s.marker source).map (checkBlock s)) (check s source) :=
  Tally.of_ofOutcomes _

theorem outcomes_check :
    (check s source).outcomes.toList = (extract s.marker source).map (checkBlock s) :=
  (of_check s source).outcomes

theorem diagramCount_check :
    (check s source).diagramCount = (extract s.marker source).length := by
  rw [Tally.diagramCount, ← Array.length_toList, outcomes_check, List.length_map]

theorem isClean_check_iff :
    (check s source).isClean = true ↔ (check s source).findings = [] :=
  (of_check s source).isClean_iff

theorem findingCount_check : (check s source).findingCount =
    ((check s source).outcomes.toList.map fun o => o.findings.length).sum := by
  rw [outcomes_check]
  exact (of_check s source).count

end DiagramLint
