import DiagramLint.Proofs.FindingPlaces
import DiagramLint.Proofs.TaskLines

/-!
# Texts of one line

A report takes three kinds of text from a source: the word that announces a chart, the label
of a task and the beginning of a structural line.  All three are cut from rows, so none of
them has a newline in it; numbers are written in digits and a few signs and have none
either.  It follows that every message and every chart name in a report is `OneLine`.
-/

namespace DiagramLint

/-- A text without newlines. -/
def OneLine (s : String) : Prop := '\n' ∉ s.toList

namespace OneLine

instance (s : String) : Decidable (OneLine s) := inferInstanceAs (Decidable (¬ _))

@[simp] theorem append_iff {s t : String} : OneLine (s ++ t) ↔ OneLine s ∧ OneLine t := by
  simp [OneLine]

@[simp] theorem ofList_iff {t : Text} : OneLine (String.ofList t) ↔ '\n' ∉ t := by
  simp [OneLine]

/-! ## Numbers -/

theorem newline_not_mem_toDigits (n : Nat) : '\n' ∉ Nat.toDigits 10 n := by
  intro h
  have hdigit := Nat.isDigit_of_mem_toDigits (by decide) (by decide) h
  revert hdigit
  decide

@[simp] theorem toString_nat (n : Nat) : OneLine (toString n) := by
  rw [Nat.toString_eq_repr, OneLine, Nat.toList_repr]
  exact newline_not_mem_toDigits n

@[simp] theorem toString_int (n : Int) : OneLine (toString n) := by
  cases n with
  | ofNat n => exact toString_nat n
  | negSucc n => exact append_iff.mpr ⟨by decide, toString_nat (n + 1)⟩

@[simp] theorem placesText (digits places : Nat) : OneLine (placesText digits places) := by
  unfold DiagramLint.placesText
  split
  · exact toString_nat _
  · simp only [append_iff, toString_nat, ofList_iff, List.mem_append, List.mem_replicate,
      newline_not_mem_toDigits, or_false, true_and]
    exact ⟨by decide, by simp⟩

theorem signed {text : String} (h : OneLine text) (negative : Bool) :
    OneLine (signed negative text) := by
  unfold DiagramLint.signed
  split
  · exact append_iff.mpr ⟨by decide, h⟩
  · exact h

@[simp] theorem numberText (x : Float) : OneLine (numberText x) := by
  unfold DiagramLint.numberText
  split
  · decide
  · exact signed (by decide) _
  · exact signed (placesText _ _) _

@[simp] theorem fixedText (x : Float) (places : Nat) : OneLine (fixedText x places) := by
  unfold DiagramLint.fixedText
  split
  · decide
  · exact signed (by decide) _
  · exact signed (placesText _ _) _

theorem suffix (note : PassNote) : OneLine note.suffix := by
  cases note with
  | uninspected => decide
  | clean => decide
  | noTasks => decide
  | tasks count narrowest =>
    simp only [PassNote.suffix, append_iff, toString_nat, fixedText, and_true]
    decide

end OneLine

/-! ## What is taken from the source -/

theorem Text.newline_not_mem_firstWord (t : Text) : '\n' ∉ firstWord t := by
  intro h
  have hblank := List.mem_takeWhile_imp h
  rw [isBlank_newline] at hblank
  cases hblank

namespace OneLine

theorem name_chart (b : Block) : OneLine b.chart.name := by
  rw [Chart.name, ofList_iff, Block.chart, Chart.classify, Chart.token_ofToken,
    Chart.leadingToken_eq]
  exact Text.newline_not_mem_firstWord b.body

/-- **A finding on a line of a block has a message of one line.** -/
theorem message {s : Settings} {b : Block} {l : Line} {f : Finding} (hl : l ∈ b.lines)
    (h : b.findingOn? s l = some f) : OneLine f.message := by
  have hline : '\n' ∉ l.text := (within_of_mem_lines hl).newline_not_mem
  rcases reports_of_findingOn? h with ⟨-, t, ht, rfl⟩ | ⟨-, kind, -, -, rfl⟩
  · have hlabel := Task.newline_not_mem_label ht hline
    simp only [Timeline.overflow, append_iff, ofList_iff, hlabel, fixedText, numberText,
      toString_int, not_false_eq_true, and_true]
    decide
  · have hpreview : '\n' ∉ l.text.take s.previewLength := fun hmem =>
      hline (List.mem_of_mem_take hmem)
    simp only [Quadrant.offence, append_iff, ofList_iff, hpreview, not_false_eq_true, and_true]
    decide

end OneLine

end DiagramLint
