import DiagramLint.Proofs.BlockFindings
import DiagramLint.Proofs.StructuralLines
import Mathlib.Data.List.Forall2

/-!
# The outcome of a quadrant chart

The check of a quadrant chart makes at most one finding on a line, and makes it exactly on the
lines that declare something and are not ASCII throughout.  `Quadrant.Localized` says which
these are, by the shapes of structural lines and without a word about how they are read.

A finding shows what it is about: the number of the block, the place of the line, what the line
declares, and the beginning of its text.  The beginning is counted in characters, so it never
ends inside one, and it is the longest that the settings allow (`Text.IsPreview`).
`Quadrant.Describes` puts this together, and `quadrant_outcome` says that the findings
describe the localized lines, one for one and in their order.
-/

namespace DiagramLint

/-! ## The beginning of a text -/

/-- The longest beginning of a text that has at most `n` characters. -/
structure Text.IsPreview (n : Nat) (t preview : Text) : Prop where
  begins : preview <+: t
  length_le : preview.length ≤ n
  longest : ∀ other, other <+: t → other.length ≤ n → other <+: preview

namespace Text.IsPreview

variable {n : Nat} {t preview : Text}

theorem of_take (n : Nat) (t : Text) : IsPreview n t (t.take n) where
  begins := List.take_prefix n t
  length_le := List.length_take_le n t
  longest := by
    intro other hother hle
    rw [List.prefix_take_iff]
    exact ⟨hother, hle⟩

/-- There is one preview of a text. -/
theorem eq_take (h : IsPreview n t preview) : preview = t.take n := by
  have htake := of_take n t
  have hle := (h.longest _ htake.begins htake.length_le).length_le
  exact (htake.longest _ h.begins h.length_le).eq_of_length_le hle

/-- A short text is its own preview. -/
theorem eq_self (h : IsPreview n t preview) (hle : t.length ≤ n) : preview = t := by
  rw [h.eq_take, List.take_of_length_le hle]

end Text.IsPreview

namespace Quadrant

/-! ## The lines that are found on -/

/-- The text declares something and has a character above U+007F. -/
def Localized (t : Text) : Prop :=
  (∃ kind : Structure, kind.Declares t) ∧ ∃ c ∈ t, 127 < c.toNat

/-- What is read as a declaration has the shape of one, so the check objects to the lines that
it should object to. -/
theorem offends_iff_localized {t : Text} : Offends t ↔ Localized t := by
  rw [Offends, Localized, Option.isSome_iff_exists]
  simp only [Structure.ofText?_eq_some_iff]

instance : DecidablePred Localized := fun _ => decidable_of_iff _ offends_iff_localized

/-- The finding describes the line of the block: it has the number of the block and the code of
characters that are not ASCII; its label lies on the line and says what the line declares; and
its message quotes the beginning of the line, which is all of it when it is short enough. -/
structure Describes (previewLength : Nat) (b : Block) (l : Line) (f : Finding) : Prop where
  index_eq : f.index = b.index
  chart_eq : f.chart = .quadrant
  code_eq : f.code.name = "E200"
  label : ∃ kind : Structure, kind.Declares l.text ∧
    f.label = some ⟨l.span, "non-ASCII character in " ++ kind.name⟩
  message : ∃ preview, Text.IsPreview previewLength l.text preview ∧
    (l.text.length ≤ previewLength → preview = l.text) ∧
    f.message = "non-ASCII in structural line — \"" ++ String.ofList preview ++ "\""

variable {previewLength : Nat} {b : Block} {l : Line} {f : Finding}

theorem describes_of_findingOn? (h : findingOn? previewLength b.index l = some f) :
    Describes previewLength b l f := by
  obtain ⟨kind, hkind, -, rfl⟩ := findingOn?_eq_some_iff.mp h
  have hpreview := Text.IsPreview.of_take previewLength l.text
  exact {
    index_eq := rfl
    chart_eq := rfl
    code_eq := rfl
    label := ⟨kind, Structure.ofText?_eq_some_iff.mp hkind, rfl⟩
    message := ⟨_, hpreview, hpreview.eq_self, rfl⟩ }

end Quadrant

/-- What a partial function finds in a list corresponds to the elements on which it finds
something. -/
theorem forall₂_filterMap {α β : Type} {p : α → Prop} [DecidablePred p] {find : α → Option β}
    {R : α → β → Prop} (hp : ∀ a, (find a).isSome = true ↔ p a)
    (hR : ∀ a b, find a = some b → R a b) (as : List α) :
    List.Forall₂ R (as.filter fun a => p a) (as.filterMap find) := by
  induction as with
  | nil => exact List.Forall₂.nil
  | cons a as ih =>
    cases hfind : find a with
    | none =>
      have hnot : ¬ p a := fun ha => by simpa [hfind] using (hp a).mpr ha
      rw [List.filterMap_cons_none hfind, List.filter_cons_of_neg (by simpa using hnot)]
      exact ih
    | some b =>
      have ha : p a := (hp a).mp (by rw [hfind]; rfl)
      rw [List.filterMap_cons_some hfind, List.filter_cons_of_pos (by simpa using ha)]
      exact List.Forall₂.cons (hR a b hfind) ih

namespace Quadrant

/-- **The findings describe the localized lines**, one for one and in order. -/
theorem forall₂_findings (previewLength : Nat) (b : Block) :
    List.Forall₂ (Describes previewLength b) (b.lines.filter fun l => Localized l.text)
      (check previewLength b).findings := by
  rw [findings_check]
  apply forall₂_filterMap
  · intro l
    rw [isSome_findingOn?_iff, offends_iff_localized]
  · intro l f hf
    exact describes_of_findingOn? hf

/-! ## The verdict -/

theorem findings_check_eq_nil_iff :
    (check previewLength b).findings = [] ↔ ∀ l ∈ b.lines, ¬ Localized l.text := by
  have hlength := (forall₂_findings previewLength b).length_eq
  rw [← List.length_eq_zero_iff, ← hlength, List.length_eq_zero_iff, List.filter_eq_nil_iff]
  simp only [decide_eq_true_eq]

theorem verdict_check_eq_clean_iff :
    (check previewLength b).verdict = .passed .clean ↔ ∀ l ∈ b.lines, ¬ Localized l.text := by
  rw [← findings_check_eq_nil_iff, check, Outcome.verdict_ofFindings_eq_passed_iff,
    Outcome.findings_ofFindings, and_iff_left rfl]

theorem verdict_check_of_findings (h : (check previewLength b).findings ≠ []) :
    (check previewLength b).verdict = .failed (check previewLength b).findings := by
  rw [check, Outcome.findings_ofFindings] at h ⊢
  exact Outcome.verdict_ofFindings_eq_failed_iff.mpr ⟨h, rfl⟩

end Quadrant

end DiagramLint
