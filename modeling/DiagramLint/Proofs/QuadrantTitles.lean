import DiagramLint.Proofs.PlaceIndependence
import DiagramLint.Proofs.StructuralLines

/-!
# Titles of quadrant charts

The check of a quadrant chart does not look for titles.  A title is left alone because it
has none of the shapes of structural lines, and with one exception that is so: the word
`title` and what follows it may be the name of a data point.  If nothing but characters of
a name stands in front of the title's first colon, and a bracket behind it, the title reads
as a data point (`Quadrant.ReadsAsPoint`), and then it draws a finding when it has a
character above U+007F (`Quadrant.Mistaken`).

The check goes row by row, so a title has no influence on the findings on other rows, and
the outcome of two charts that differ in their titles differs in the findings on these
titles and in nothing else (`Quadrant.title_draws_finding_iff`).
-/

namespace DiagramLint.Quadrant

/-- The first word of a title. -/
def titleWord : Text := ['t', 'i', 't', 'l', 'e']

/-- The title goes on like a data point: only characters of a name up to a colon, then
blanks and a bracket. -/
def ReadsAsPoint (title : Text) : Prop :=
  ∃ name gap rest, title = titleWord ++ (name ++ ':' :: (gap ++ '[' :: rest)) ∧
    (∀ c ∈ name, Structure.isWordOrBlank c = true) ∧ ∀ c ∈ gap, Text.isBlank c = true

/-- The title is taken for a data point with characters that a data point may not have. -/
def Mistaken (title : Text) : Prop := ReadsAsPoint title ∧ ∃ c ∈ title, 127 < c.toNat

/-- A row of a body that begins with the word `title`. -/
structure TitleRow (row : Text) : Prop where
  newline_not_mem : '\n' ∉ row
  firstWord_eq : Text.firstWord row = titleWord

/-! ## What a title declares -/

theorem isWordOrBlank_of_mem_titleWord : ∀ c ∈ titleWord, Structure.isWordOrBlank c = true := by
  have hword : titleWord.all Structure.isWordOrBlank = true := by decide +kernel
  exact List.all_eq_true.mp hword

/-- A title declares a data point or nothing. -/
theorem eq_dataPoint_of_title {text : Text} {s : Structure}
    (h : Structure.ofText? (titleWord ++ text) = some s) : s = .dataPoint := by
  have hof : Structure.ofText? (titleWord ++ text) =
      if Structure.isDataPoint (titleWord ++ text) then some .dataPoint else none := rfl
  rw [hof] at h
  split at h
  · exact (Option.some.inj h).symm
  · cases h

/-- The name of the point is the word `title` with what stands in front of the colon. -/
theorem dataPoint_title_iff {text : Text} :
    Structure.dataPoint.Declares (titleWord ++ text) ↔ ReadsAsPoint (titleWord ++ text) := by
  constructor
  · rintro ⟨name, gap, rest, hsplit, -, hname, hgap⟩
    rcases List.append_eq_append_iff.mp hsplit with ⟨z, rfl, rfl⟩ | ⟨z, hword, hrest⟩
    · exact ⟨z, gap, rest, rfl, fun c hc => hname c (List.mem_append_right _ hc), hgap⟩
    · cases z with
      | nil => exact ⟨[], gap, rest, by rw [hrest]; rfl, by simp, hgap⟩
      | cons c z =>
        -- the colon would stand in the word
        obtain ⟨rfl, -⟩ := List.cons.inj hrest
        have hcolon := isWordOrBlank_of_mem_titleWord ':' (by rw [hword]; simp)
        rw [Structure.isWordOrBlank_colon] at hcolon
        cases hcolon
  · rintro ⟨name, gap, rest, hsplit, hname, hgap⟩
    refine ⟨titleWord ++ name, gap, rest, by rw [hsplit, List.append_assoc], by simp [titleWord],
      fun c hc => ?_, hgap⟩
    rcases List.mem_append.mp hc with hc | hc
    · exact isWordOrBlank_of_mem_titleWord c hc
    · exact hname c hc

/-- **A title offends exactly when it is mistaken.** -/
theorem offends_trim_iff {row : Text} (h : Text.firstWord row = titleWord) :
    Offends (Text.trim row) ↔ Mistaken (Text.trim row) := by
  obtain ⟨text, htext⟩ : ∃ text, Text.trim row = titleWord ++ text :=
    ⟨_, by rw [← h, Text.firstWord_append_dropWhile_trim]⟩
  rw [htext, Offends, Mistaken, Option.isSome_iff_exists, ← dataPoint_title_iff,
    ← Structure.ofText?_eq_some_iff]
  constructor
  · rintro ⟨⟨s, hs⟩, hchar⟩
    obtain rfl := eq_dataPoint_of_title hs
    exact ⟨hs, hchar⟩
  · rintro ⟨hpoint, hchar⟩
    exact ⟨⟨_, hpoint⟩, hchar⟩

/-! ## The findings on single lines -/

/-- **A line draws a finding exactly when it offends.** -/
theorem exists_finding_iff {previewLength : Nat} {b : Block} {l : Line} (hl : l ∈ b.lines) :
    (∃ f ∈ (check previewLength b).findings, f.label.map Label.span = some l.span) ↔
      Offends l.text := by
  rw [findings_check, ← isSome_findingOn?_iff, Option.isSome_iff_exists]
  constructor
  · rintro ⟨f, hf, hspan⟩
    obtain ⟨l', hl', hfinding⟩ := List.mem_filterMap.mp hf
    rw [span_of_findingOn? hfinding] at hspan
    obtain rfl := line_eq_of_span_eq hl' hl (Option.some.inj hspan)
    exact ⟨f, hfinding⟩
  · rintro ⟨f, hfinding⟩
    exact ⟨f, List.mem_filterMap.mpr ⟨l, hl, hfinding⟩, span_of_findingOn? hfinding⟩

/-! ## A title between other rows -/

/-- The finding on a row, without a place. -/
def rowFinding? (previewLength index : Nat) (row : Text) : Option Finding :=
  findingOn? previewLength index ⟨row, ⟨0, 0⟩⟩

theorem rowFinding?_eq_none_iff {previewLength index : Nat} {row : Text} :
    rowFinding? previewLength index row = none ↔ ¬ Offends row := by
  rw [← Option.not_isSome_iff_eq_none, rowFinding?, isSome_findingOn?_iff]

/-- Up to places, the findings of a block are those on its rows. -/
theorem map_unplaced_findings_check (previewLength : Nat) (b : Block) :
    (check previewLength b).findings.map Finding.unplaced =
      (Text.rows b.body).filterMap (rowFinding? previewLength b.index) := by
  rw [findings_check]
  exact (goesByText previewLength b.index).map_unplaced_lines b

/-- Outcomes of checks under one number differ, up to places, exactly when their findings
do. -/
theorem unplaced_check_eq_iff {previewLength : Nat} {b b' : Block} (h : b.index = b'.index) :
    (check previewLength b).unplaced = (check previewLength b').unplaced ↔
      (check previewLength b).findings.map Finding.unplaced =
        (check previewLength b').findings.map Finding.unplaced := by
  rw [← Outcome.findings_unplaced, ← Outcome.findings_unplaced]
  constructor
  · exact congrArg Outcome.findings
  · intro hfindings
    simp only [check, Outcome.unplaced_ofFindings, Outcome.findings_ofFindings] at hfindings ⊢
    rw [hfindings, h]

theorem TitleRow.firstWord_ne_nil {row : Text} (h : TitleRow row) : Text.firstWord row ≠ [] := by
  rw [h.firstWord_eq]
  exact List.cons_ne_nil _ _

/-- A block whose body has a title between other rows. -/
def titled (index : Nat) (span : Span) (above title below : Text) : Block :=
  ⟨index, above ++ (title ++ below), span⟩

/-- The findings on the rows above and below a title are those of the rows alone. -/
theorem map_unplaced_findings_titled {above title below : Text} (hrow : TitleRow title)
    (habove : above = [] ∨ above.getLast? = some '\n')
    (hbelow : below = [] ∨ below.head? = some '\n') (previewLength index : Nat) (span : Span) :
    (check previewLength (titled index span above title below)).findings.map Finding.unplaced =
      (check previewLength ⟨index, above, span⟩).findings.map Finding.unplaced ++
        ((rowFinding? previewLength index (Text.trim title)).toList ++
          (check previewLength ⟨index, below, span⟩).findings.map Finding.unplaced) := by
  simp only [map_unplaced_findings_check, titled]
  rw [Text.rows_between habove hbelow hrow.newline_not_mem hrow.firstWord_ne_nil,
    List.filterMap_append]
  cases h : rowFinding? previewLength index (Text.trim title) <;> simp [h]

/-- **Which titles are checked.**  On a line of a chart that begins with the word `title`,
the check makes a finding exactly when the title is mistaken for a data point.  The findings
on the rows above and below a title do not depend on it, and replacing the title by another
one leaves the outcome as it is, up to places, exactly when both draw the same finding; two
titles that are not mistaken draw none. -/
theorem title_draws_finding_iff (previewLength : Nat) :
    (∀ (b : Block) (l : Line), l ∈ b.lines → Text.firstWord l.text = titleWord →
      ((∃ f ∈ (check previewLength b).findings, f.label.map Label.span = some l.span) ↔
        Mistaken l.text)) ∧
    ∀ (index : Nat) (span span' : Span) (above below title title' : Text),
      (above = [] ∨ above.getLast? = some '\n') → (below = [] ∨ below.head? = some '\n') →
      TitleRow title → TitleRow title' →
      ((check previewLength (titled index span above title below)).findings.map
          Finding.unplaced =
        (check previewLength ⟨index, above, span⟩).findings.map Finding.unplaced ++
          ((rowFinding? previewLength index (Text.trim title)).toList ++
            (check previewLength ⟨index, below, span⟩).findings.map Finding.unplaced)) ∧
      (rowFinding? previewLength index (Text.trim title) = none ↔ ¬ Mistaken (Text.trim title)) ∧
      ((check previewLength (titled index span above title below)).unplaced =
          (check previewLength (titled index span' above title' below)).unplaced ↔
        rowFinding? previewLength index (Text.trim title) =
          rowFinding? previewLength index (Text.trim title')) := by
  constructor
  · intro b l hl hword
    obtain ⟨-, row, -, -, -, -, -, htext, -⟩ := (within_of_mem_lines hl).row
    rw [htext, Text.firstWord_trim] at hword
    rw [exists_finding_iff hl, htext, offends_trim_iff hword]
  · intro index span span' above below title title' habove hbelow htitle htitle'
    have hfindings := map_unplaced_findings_titled htitle habove hbelow previewLength index span
    have hfindings' :=
      map_unplaced_findings_titled htitle' habove hbelow previewLength index span'
    refine ⟨hfindings, ?_, ?_⟩
    · rw [rowFinding?_eq_none_iff, offends_trim_iff htitle.firstWord_eq]
    · have hindex : (titled index span above title below).index =
          (titled index span' above title' below).index := rfl
      rw [unplaced_check_eq_iff hindex, hfindings, hfindings']
      -- the rows above and below have the same findings in both charts
      simp only [map_unplaced_findings_check, List.append_cancel_left_eq,
        List.append_cancel_right_eq]
      constructor
      · intro h
        simpa only [Option.head?_toList] using congrArg List.head? h
      · exact congrArg Option.toList

/-- Titles with a colon and a bracket: a hyphen and a quote are no characters of a name. -/
theorem title_draws_finding_iff_of_freeTitles :
    ¬ Mistaken "title 段階-1: [案]".toList ∧
      (check 60 (titled 1 ⟨0, 56⟩ "quadrantChart\n".toList " title 段階-1: [案] ".toList
          "\nx-axis 低 --> 高".toList)).unplaced =
        (check 60 (titled 1 ⟨0, 54⟩ "quadrantChart\n".toList "title \"計画\": [案]".toList
          "\nx-axis 低 --> 高".toList)).unplaced := by
  have hrow : TitleRow " title 段階-1: [案] ".toList := ⟨by decide, by decide⟩
  have hrow' : TitleRow "title \"計画\": [案]".toList := ⟨by decide, by decide⟩
  obtain ⟨-, hfree, hsame⟩ := (title_draws_finding_iff 60).2 1 ⟨0, 56⟩ ⟨0, 54⟩
    "quadrantChart\n".toList "\nx-axis 低 --> 高".toList _ _ (Or.inr (by decide))
    (Or.inr (by decide)) hrow hrow'
  exact ⟨hfree.mp (by decide +kernel), hsame.mpr (by decide +kernel)⟩

/-- A title that is the name of a data point draws a finding when it is not ASCII, which
another title does not. -/
theorem finding_on_localizedTitle :
    (⟨"title 優先度: [案]".toList, ⟨16, 38⟩⟩ : Line) ∈
        lines 0 "quadrantChart\n  title 優先度: [案]".toList ∧
      Text.firstWord "title 優先度: [案]".toList = titleWord ∧
      (check 60 (titled 1 ⟨0, 38⟩ "quadrantChart\n".toList "  title 優先度: [案]".toList
          [])).findings =
        [⟨1, .quadrant, .nonAscii, "non-ASCII in structural line — \"title 優先度: [案]\"",
          some ⟨⟨16, 38⟩, "non-ASCII character in data point"⟩,
          some "use ASCII text here; localized text is only safe in the title"⟩] ∧
      (check 60 (titled 1 ⟨0, 37⟩ "quadrantChart\n".toList "  title 優先度 (案)".toList
          [])).isPass = true := by
  decide +kernel

end DiagramLint.Quadrant
