import DiagramLint.Proofs.BlockFindings

/-!
# The word that announces a chart

The chart of a body is found by way of rows that end at a line feed or at a carriage return and
a line feed, the checks read lines that end at a line feed alone, and neither matters in the
end: line feeds and carriage returns are blank, so what is looked for is the first word of the
whole body, and the first line begins with it.

`Text.IsFirstWord` describes the first word of a text by a split of the text, and
`Text.isFirstWord_iff` says that it is the word that is read.  What is blank around the word, and
whatever follows the first blank character behind it, has no part in this, so bodies with the
same first word go to the same check (`Chart.chart_by_first_word`).
-/

namespace DiagramLint

namespace Text

/-- The word is the first maximal run of characters of the text that are not blank: nothing but
blank characters stands in front of it, and it ends at the end of the text or at a blank
character.  It is empty when the whole text is blank. -/
structure IsFirstWord (t word : Text) : Prop where
  split : ∃ before after, t = before ++ (word ++ after) ∧ (∀ c ∈ before, isBlank c = true) ∧
    ∀ c ∈ after.head?, isBlank c = true
  not_blank : ∀ c ∈ word, isBlank c = false
  blank_of_nil : word = [] → ∀ c ∈ t, isBlank c = true

theorem isFirstWord_firstWord (t : Text) : IsFirstWord t (firstWord t) where
  split := by
    refine ⟨leading t, (trimStart t).dropWhile (fun c => !isBlank c), ?_, ?_, ?_⟩
    · rw [firstWord, List.takeWhile_append_dropWhile, leading_append_trimStart]
    · exact fun c => isBlank_of_mem_leading
    · intro c hc
      obtain ⟨rest, hrest⟩ := List.head?_eq_some_iff.mp hc
      simpa using (scan_eq_iff.mp ⟨rfl, hrest⟩).2.2
  not_blank := by
    intro c hc
    simpa using List.mem_takeWhile_imp hc
  blank_of_nil := by
    intro hnil
    apply trimStart_eq_nil_iff.mp
    by_contra hne
    obtain ⟨c, rest, hstart⟩ := List.exists_cons_of_ne_nil hne
    -- the blank characters in front end at one that is not blank
    have hc : isBlank c = false := (scan_eq_iff.mp ⟨rfl, hstart⟩).2.2
    rw [firstWord, hstart, List.takeWhile_cons_of_pos (by simp [hc])] at hnil
    cases hnil

/-- **A text has one first word**, and it is the word that is read. -/
theorem isFirstWord_iff {t word : Text} : IsFirstWord t word ↔ firstWord t = word := by
  constructor
  · rintro ⟨⟨before, after, hsplit, hbefore, hafter⟩, hword, hnil⟩
    cases word with
    | nil => exact firstWord_eq_nil_of_blank (hnil rfl)
    | cons c word =>
      have hstart : trimStart (c :: word ++ after) = c :: word ++ after := by
        rw [trimStart, List.cons_append, List.dropWhile_cons_of_neg]
        simp [hword c List.mem_cons_self]
      have hall : ∀ d ∈ c :: word, (!isBlank d) = true := fun d hd => by simp [hword d hd]
      rw [hsplit, firstWord_blank_append hbefore, firstWord, hstart]
      cases after with
      | nil => rw [List.append_nil, List.takeWhile_eq_self_iff.mpr hall]
      | cons d rest =>
        have hd : isBlank d = true := hafter d rfl
        exact (scan_eq_iff.mpr ⟨rfl, hall, by simp [hd]⟩).1
  · rintro rfl
    exact isFirstWord_firstWord t

/-- A first word is the first word of itself. -/
theorem IsFirstWord.self {t word : Text} (h : IsFirstWord t word) : IsFirstWord word word where
  split := ⟨[], [], by simp, by simp, by simp⟩
  not_blank := h.not_blank
  blank_of_nil := by
    rintro rfl c hc
    cases hc

end Text

/-- The first word of a body is that of its first line. -/
theorem firstWord_eq_head_lines (base : Nat) (body : Text) :
    Text.firstWord body =
      ((lines base body).head?.map fun l => Text.firstWord l.text).getD [] := by
  rw [Text.firstWord_eq_head_rows, ← map_text_lines base body, List.head?_map, Option.map_map]
  rfl

namespace Chart

/-! ## The chart of a word -/

theorem classify_eq (body : Text) : classify body = ofToken (Text.firstWord body) := by
  rw [classify, leadingToken_eq]

variable {word token : Text}

theorem ofToken_eq_gantt_iff : ofToken word = gantt ↔ word = ganttToken := by
  constructor
  · intro h
    rw [← token_ofToken word, h, Chart.token]
  · intro h
    rw [ofToken, if_pos h]

theorem ofToken_eq_quadrant_iff : ofToken word = quadrant ↔ word = quadrantToken := by
  constructor
  · intro h
    rw [← token_ofToken word, h, Chart.token]
  · rintro rfl
    decide

theorem ofToken_of_ne (hgantt : word ≠ ganttToken) (hquadrant : word ≠ quadrantToken) :
    ofToken word = other word := by
  rw [ofToken, if_neg hgantt, if_neg hquadrant]

/-- The outcome of a block is shown under the word that announces its chart. -/
theorem name_checkBlock (s : Settings) (b : Block) :
    (checkBlock s b).chart.name = String.ofList (Text.firstWord b.body) := by
  rw [Block.chart_checkBlock, name, Block.chart, classify_eq, token_ofToken]

/-- **A block goes to the check that its first word announces.**  The word of a body is the first
maximal run of characters that are not blank, and that of its first line, wherever the body
stands; a body without lines has the empty word.  The chart is a timeline exactly for the word
`gantt`, a quadrant chart exactly for `quadrantChart`, and otherwise the chart of that word; the
word alone announces the same chart, and outcomes show it.  Bodies with the same first word go
to the same check, whatever stands around the word. -/
theorem chart_by_first_word (body : Text) (base : Nat) :
    ∃ word, Text.IsFirstWord body word ∧ (∀ word', Text.IsFirstWord body word' → word' = word) ∧
      (classify body).token = word ∧
      (∀ l ∈ (lines base body).head?, Text.IsFirstWord l.text word) ∧
      (lines base body = [] → word = []) ∧
      (classify body = gantt ↔ word = "gantt".toList) ∧
      (classify body = quadrant ↔ word = "quadrantChart".toList) ∧
      (word ≠ "gantt".toList → word ≠ "quadrantChart".toList → classify body = other word) ∧
      classify word = classify body ∧
      ∀ body', Text.IsFirstWord body' word → ∀ (s : Settings) (index : Nat) (span : Span),
        (checkBlock s ⟨index, body', span⟩).chart = classify body ∧
        (checkBlock s ⟨index, body', span⟩).chart.name = String.ofList word ∧
        (word = "gantt".toList →
          checkBlock s ⟨index, body', span⟩ = Timeline.check s.metrics ⟨index, body', span⟩) ∧
        (word = "quadrantChart".toList →
          checkBlock s ⟨index, body', span⟩ =
            Quadrant.check s.previewLength ⟨index, body', span⟩) ∧
        (word ≠ "gantt".toList → word ≠ "quadrantChart".toList →
          checkBlock s ⟨index, body', span⟩ = .passed index (.other word) .uninspected) := by
  have hgantt : "gantt".toList = ganttToken := rfl
  have hquadrant : "quadrantChart".toList = quadrantToken := rfl
  have hfirst := Text.isFirstWord_firstWord body
  have hlines := firstWord_eq_head_lines base body
  rw [hgantt, hquadrant]
  refine ⟨Text.firstWord body, hfirst, ?_, ?_, ?_, ?_, ?_, ?_, ?_, ?_, ?_⟩
  · intro word' hword'
    exact (Text.isFirstWord_iff.mp hword').symm
  · rw [classify_eq, token_ofToken]
  · intro l hl
    rw [Option.mem_def.mp hl] at hlines
    exact Text.isFirstWord_iff.mpr hlines.symm
  · intro hnil
    rw [hlines, hnil]
    rfl
  · rw [classify_eq, ofToken_eq_gantt_iff]
  · rw [classify_eq, ofToken_eq_quadrant_iff]
  · intro hne hne'
    rw [classify_eq, ofToken_of_ne hne hne']
  · rw [classify_eq, classify_eq, Text.isFirstWord_iff.mp hfirst.self]
  · intro body' hbody' s index span
    have hword := Text.isFirstWord_iff.mp hbody'
    have hchart : (⟨index, body', span⟩ : Block).chart = classify body := by
      rw [Block.chart, classify_eq, classify_eq, hword]
    refine ⟨?_, ?_, fun h => ?_, fun h => ?_, fun hne hne' => ?_⟩
    · rw [Block.chart_checkBlock, hchart]
    · rw [name_checkBlock, hword]
    · rw [checkBlock, hchart, classify_eq, ofToken_eq_gantt_iff.mpr h]
    · rw [checkBlock, hchart, classify_eq, ofToken_eq_quadrant_iff.mpr h]
    · rw [checkBlock, hchart, classify_eq, ofToken_of_ne hne hne']

/-- A carriage return ends a word like any other blank character, with or without a line feed. -/
example : classify " \r\n\u2028gantt\rtitle".toList = gantt := by decide +kernel

end Chart

end DiagramLint
