import DiagramLint.Finding

/-!
# Outcomes

Checking a diagram ends in a pass with a note on what was looked at, or in a
failure with the findings.  `Outcome.ofFindings` decides between the two, so that
an outcome it makes fails exactly when it has findings (`isPass_ofFindings`).
-/

namespace DiagramLint

/-- What a passing diagram was checked for. -/
inductive PassNote where
  /-- Charts of this kind are not looked into. -/
  | uninspected
  | noTasks
  /-- A timeline whose labels all fit; the narrowest bar has `narrowest` percent. -/
  | tasks (count : Nat) (narrowest : Float)
  | clean

/-- How the check of a diagram ended. -/
inductive Verdict where
  | passed (note : PassNote)
  | failed (findings : List Finding)

/-- The result of checking a diagram. -/
structure Outcome where
  /-- The number of the diagram. -/
  index : Nat
  chart : Chart
  verdict : Verdict

namespace Outcome

def passed (index : Nat) (chart : Chart) (note : PassNote) : Outcome := ⟨index, chart, .passed note⟩

/-- A failure with these findings, or a pass when there are none. -/
def ofFindings (index : Nat) (chart : Chart) (findings : List Finding) (note : PassNote) :
    Outcome :=
  match findings with
  | [] => passed index chart note
  | _ :: _ => ⟨index, chart, .failed findings⟩

def isPass (o : Outcome) : Bool :=
  match o.verdict with
  | .passed _ => true
  | .failed _ => false

/-- The findings; none for a pass. -/
def findings (o : Outcome) : List Finding :=
  match o.verdict with
  | .passed _ => []
  | .failed findings => findings

@[simp] theorem findings_passed (i : Nat) (c : Chart) (n : PassNote) :
    (passed i c n).findings = [] := rfl

@[simp] theorem index_ofFindings (i : Nat) (c : Chart) (fs : List Finding) (n : PassNote) :
    (ofFindings i c fs n).index = i := by
  cases fs <;> rfl

@[simp] theorem chart_ofFindings (i : Nat) (c : Chart) (fs : List Finding) (n : PassNote) :
    (ofFindings i c fs n).chart = c := by
  cases fs <;> rfl

@[simp] theorem findings_ofFindings (i : Nat) (c : Chart) (fs : List Finding) (n : PassNote) :
    (ofFindings i c fs n).findings = fs := by
  cases fs <;> rfl

theorem isPass_ofFindings (i : Nat) (c : Chart) (fs : List Finding) (n : PassNote) :
    (ofFindings i c fs n).isPass = fs.isEmpty := by
  cases fs <;> rfl

/-- Of findings and a note, the note is the verdict when there are no findings. -/
theorem verdict_ofFindings_eq_passed_iff {i : Nat} {c : Chart} {fs : List Finding}
    {n n' : PassNote} : (ofFindings i c fs n).verdict = .passed n' ↔ fs = [] ∧ n = n' := by
  cases fs with
  | nil => simp [ofFindings, passed]
  | cons f fs => simp [ofFindings]

theorem verdict_ofFindings_eq_failed_iff {i : Nat} {c : Chart} {fs fs' : List Finding}
    {n : PassNote} : (ofFindings i c fs n).verdict = .failed fs' ↔ fs ≠ [] ∧ fs = fs' := by
  cases fs with
  | nil => simp [ofFindings, passed]
  | cons f fs => simp [ofFindings]

end Outcome

end DiagramLint
