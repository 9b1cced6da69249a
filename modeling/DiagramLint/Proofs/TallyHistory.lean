import DiagramLint.Proofs.BlockFindings
import DiagramLint.Proofs.TallyCounts

/-!
# How a tally comes about

A tally may be put together in any way: outcome by outcome, from a list of outcomes, from
other tallies.  `Tally.Built` follows this and keeps the outcomes that have come in, in
order.  Whatever the way, the tally is that of this list (`Tally.Built.of`): each step
preserves it, by what pushing does to a tally.

That the number decides whether the outcomes pass needs one thing more, of the outcomes: a
failure always has a finding to show for it.  Failures are made from findings alone, so it
does (`Outcome.Made.ne_failed_nil`).
-/

namespace DiagramLint

namespace Outcome

/-- How outcomes are made: as passes, from findings, or by a check. -/
inductive Made : Outcome → Prop
  | passed (index : Nat) (chart : Chart) (note : PassNote) : Made (.passed index chart note)
  | ofFindings (index : Nat) (chart : Chart) (findings : List Finding) (note : PassNote) :
      Made (.ofFindings index chart findings note)
  | timeline (m : Metrics Float) (b : Block) : Made (Timeline.check m b)
  | quadrant (previewLength : Nat) (b : Block) : Made (Quadrant.check previewLength b)
  | block (s : Settings) (b : Block) : Made (checkBlock s b)

theorem ofFindings_ne_failed_nil (i : Nat) (c : Chart) (fs : List Finding) (n : PassNote) :
    (ofFindings i c fs n).verdict ≠ .failed [] := by
  cases fs with
  | nil => exact Verdict.noConfusion
  | cons f fs =>
    intro h
    cases h

/-- **A failure has findings.** -/
theorem Made.ne_failed_nil {o : Outcome} (h : o.Made) : o.verdict ≠ .failed [] := by
  cases h with
  | passed index chart note => exact Verdict.noConfusion
  | ofFindings index chart findings note => exact ofFindings_ne_failed_nil _ _ _ _
  | timeline m b =>
    unfold Timeline.check
    split
    · exact Verdict.noConfusion
    · exact ofFindings_ne_failed_nil _ _ _ _
  | quadrant previewLength b => exact ofFindings_ne_failed_nil _ _ _ _
  | block s b =>
    rw [Block.checkBlock_eq]
    exact ofFindings_ne_failed_nil _ _ _ _

theorem isPass_iff_findings_eq_nil {o : Outcome} (h : o.verdict ≠ .failed []) :
    o.isPass = true ↔ o.findings = [] := by
  obtain ⟨index, chart, note | findings⟩ := o
  · exact ⟨fun _ => rfl, fun _ => rfl⟩
  · constructor
    · intro hpass
      cases hpass
    · intro hnil
      exact absurd (congrArg Verdict.failed hnil) h

end Outcome

namespace Tally

/-- The ways to put a tally together from outcomes of some make.  The list has the outcomes
in the order in which they have come in. -/
inductive Built (made : Outcome → Prop) : List Outcome → Tally → Prop
  | empty : Built made [] .empty
  | push {os : List Outcome} {t : Tally} {o : Outcome} (ht : Built made os t) (ho : made o) :
      Built made (os ++ [o]) (t.push o)
  | collect {os : List Outcome} (hos : ∀ o ∈ os, made o) : Built made os (.ofOutcomes os)
  | append {os os' : List Outcome} {t t' : Tally} (ht : Built made os t)
      (ht' : Built made os' t') : Built made (os ++ os') (t.append t'.outcomes.toList)

variable {made : Outcome → Prop} {os : List Outcome} {t : Tally}

/-- **A tally is that of the outcomes that have come in**, however it was put together. -/
theorem Built.of (h : Built made os t) : Of os t := by
  induction h with
  | empty => exact Of.empty
  | push _ _ ih => exact ih.push _
  | @collect os _ => exact of_ofOutcomes os
  | append _ _ ih ih' =>
    rw [ih'.outcomes]
    exact ih.append _

theorem Built.made_of_mem (h : Built made os t) : ∀ o ∈ os, made o := by
  induction h with
  | empty => exact fun _ ho => absurd ho List.not_mem_nil
  | push _ ho ih =>
    intro o hmem
    rcases List.mem_append.mp hmem with hold | hnew
    · exact ih o hold
    · obtain rfl := List.mem_singleton.mp hnew
      exact ho
  | collect hos => exact hos
  | append _ _ ih ih' =>
    intro o hmem
    rcases List.mem_append.mp hmem with hold | hnew
    · exact ih o hold
    · exact ih' o hnew

/-- **What a tally says of its outcomes.**  However a tally was put together from outcomes
that can be made, its outcomes are those that have come in and its findings are theirs, both
in order; the number that it keeps is the sum of their numbers of findings and the length of
the list of findings; no failure among them is without findings; and it is clean exactly when
the exit code is zero, and exactly when all outcomes pass. -/
theorem built_invariant (h : Built Outcome.Made os t) :
    t.outcomes.toList = os ∧
    t.findings = os.flatMap Outcome.findings ∧
    t.findingCount = (os.map fun o => o.findings.length).sum ∧
    t.findingCount = t.findings.length ∧
    (∀ o ∈ os, o.verdict ≠ .failed []) ∧
    (t.isClean = true ↔ t.exitCode = 0) ∧
    (t.isClean = true ↔ ∀ o ∈ os, o.isPass = true) := by
  have hof := h.of
  have hfailures : ∀ o ∈ os, o.verdict ≠ .failed [] := fun o ho =>
    (h.made_of_mem o ho).ne_failed_nil
  refine ⟨hof.outcomes, hof.findings_eq, hof.count, hof.length_findings.symm, hfailures,
    exitCode_eq_zero_iff.symm, ?_⟩
  rw [hof.isClean_iff, hof.findings_eq, List.flatMap_eq_nil_iff]
  refine forall₂_congr fun o ho => ?_
  exact (Outcome.isPass_iff_findings_eq_nil (hfailures o ho)).symm

/-- A chart that is not looked into. -/
def pieOutcome : Outcome := .passed 1 (.other ['p', 'i', 'e']) .uninspected

/-- A failure made by hand, and the check of a quadrant chart with one bad line. -/
def failedOutcomes : List Outcome :=
  [.ofFindings 7 .gantt [⟨7, .gantt, .labelOverflow, "", none, none⟩] .clean,
    checkBlock .default (.ofRaw 2 0 "quadrantChart\n x-axis é".toList)]

/-- A tally with a pass, to which the outcomes of another tally have been appended. -/
def appendedTally : Tally :=
  (empty.push pieOutcome).append (ofOutcomes failedOutcomes).outcomes.toList

theorem built_invariant_of_appendedTally :
    Built Outcome.Made (pieOutcome :: failedOutcomes) appendedTally ∧
    appendedTally.findings.map Finding.index = [7, 2] ∧ appendedTally.findingCount = 2 ∧
    appendedTally.exitCode ≠ 0 := by
  have hmade : ∀ o ∈ failedOutcomes, o.Made := by
    refine List.forall_mem_cons.mpr ⟨.ofFindings _ _ _ _, ?_⟩
    exact List.forall_mem_singleton.mpr (.block _ _)
  have hbuilt : Built Outcome.Made (pieOutcome :: failedOutcomes) appendedTally :=
    (Built.empty.push (.passed _ _ _)).append (.collect hmade)
  obtain ⟨-, hfindings, hcount, -, -, hexit, hpass⟩ := built_invariant hbuilt
  refine ⟨hbuilt, ?_, ?_, ?_⟩
  · rw [hfindings]
    decide +kernel
  · rw [hcount]
    decide +kernel
  · rw [Ne, ← hexit, hpass]
    decide +kernel

end Tally

end DiagramLint
