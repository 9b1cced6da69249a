import DiagramLint.Outcome

/-!
# Tallies

A tally collects outcomes in the order in which they are pushed and keeps count of
their findings.  A tally without findings is clean, and the exit code of a run says
whether it is.
-/

namespace DiagramLint

/-- The outcomes of a run and the number of their findings. -/
structure Tally where
  outcomes : Array Outcome
  /-- The number of findings of all of them. -/
  findingCount : Nat

namespace Tally

def empty : Tally := ⟨#[], 0⟩

instance : Inhabited Tally := ⟨empty⟩

def push (t : Tally) (o : Outcome) : Tally :=
  ⟨t.outcomes.push o, t.findingCount + o.findings.length⟩

def append (t : Tally) (os : List Outcome) : Tally := os.foldl push t

def ofOutcomes (os : List Outcome) : Tally := empty.append os

def diagramCount (t : Tally) : Nat := t.outcomes.size

/-- All findings, diagram by diagram. -/
def findings (t : Tally) : List Finding := t.outcomes.toList.flatMap Outcome.findings

def isClean (t : Tally) : Bool := t.findingCount == 0

/-- The exit code of a run that was completed. -/
def exitCode (t : Tally) : Nat := if t.isClean then 0 else 1

/-! ## Each operation through the list of outcomes -/

@[simp] theorem toList_push (t : Tally) (o : Outcome) :
    (t.push o).outcomes.toList = t.outcomes.toList ++ [o] := by
  simp [push]

@[simp] theorem toList_append (t : Tally) (os : List Outcome) :
    (t.append os).outcomes.toList = t.outcomes.toList ++ os := by
  induction os generalizing t with
  | nil => simp [append]
  | cons o os ih =>
      have h := ih (t.push o)
      rw [toList_push, List.append_assoc] at h
      exact h

@[simp] theorem toList_ofOutcomes (os : List Outcome) :
    (ofOutcomes os).outcomes.toList = os := by
  simp [ofOutcomes, empty]

end Tally

end DiagramLint
