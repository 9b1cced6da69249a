import DiagramLint.Proofs.RearrangedLines

/-!
# Headers of timelines

Titles, sections and formats begin with a word of their own, but the check of a timeline does not
look for these words.  It passes over such a line because it is not a task, and with one
exception that is so: the text behind the word may have a colon with a usable schedule behind
it.  Then the line reads as a task (`Timeline.ReadsAsTask`), whose label begins with the word.

What the check makes of a body depends on the labels and the minutes of its tasks alone
(`Timeline.unplaced_check_congr`).  So a header that does not read as a task has no influence on
the total and on the outcome, and one that does counts like any task
(`Timeline.header_is_task_iff`).
-/

namespace DiagramLint.Timeline

/-- The first words of headers: of titles, sections and formats. -/
def headerWords : List Text :=
  ["title".toList, "section".toList, "dateFormat".toList, "axisFormat".toList]

/-- One of the colons of the text has a usable schedule behind it. -/
def ReadsAsTask (text : Text) : Prop := ∃ x y, text = x ++ ':' :: y ∧ Timed y

/-- A row of a body that begins with the word of a header. -/
structure HeaderRow (row : Text) : Prop where
  newline_not_mem : '\n' ∉ row
  firstWord_mem : Text.firstWord row ∈ headerWords

/-! ## Headers that are tasks -/

theorem colon_not_mem_of_mem_headerWords : ∀ word ∈ headerWords, ':' ∉ word := by
  decide +kernel

/-- The word of a header stands in front of all its colons. -/
theorem ne_nil_of_header {text x y : Text} (h : Text.firstWord text ∈ headerWords)
    (hsplit : text = x ++ ':' :: y) : x ≠ [] := by
  rintro rfl
  have hword : Text.firstWord text = ':' :: y.takeWhile fun c => !Text.isBlank c := by
    simp [hsplit, Text.firstWord, Text.trimStart]
  rw [hword] at h
  exact colon_not_mem_of_mem_headerWords _ h List.mem_cons_self

/-- **A header is a task exactly when it reads as one.** -/
theorem splitFrom_eq_none_iff_of_header {text : Text} (h : Text.firstWord text ∈ headerWords) :
    Task.splitFrom [] text = none ↔ ¬ ReadsAsTask text := by
  have hline : Task.ofLine? ⟨text, ⟨0, 0⟩⟩ = none ↔ Task.splitFrom [] text = none :=
    Option.map_eq_none_iff
  rw [← hline, Task.ofLine?_eq_none_iff]
  constructor
  · rintro hnone ⟨x, y, hsplit, hy⟩
    exact hnone x y hsplit (ne_nil_of_header h hsplit) hy
  · intro hnot x y hsplit _ hy
    exact hnot ⟨x, y, hsplit, hy⟩

theorem exists_ofLine?_iff_of_header {l : Line} (h : Text.firstWord l.text ∈ headerWords) :
    (∃ t, Task.ofLine? l = some t) ↔ ReadsAsTask l.text := by
  rw [← Option.isSome_iff_exists, ← Option.ne_none_iff_isSome, Task.ofLine?, ne_eq,
    Option.map_eq_none_iff, splitFrom_eq_none_iff_of_header h, not_not]

/-- The line of a finding is a task. -/
theorem exists_ofLine?_of_finding {m : Metrics Float} {b : Block} {l : Line} {f : Finding}
    (hl : l ∈ b.lines) (hf : f ∈ (check m b).findings)
    (hspan : f.label.map Label.span = some l.span) : ∃ t, Task.ofLine? l = some t := by
  rw [Block.findings_timelineCheck] at hf
  obtain ⟨t, ht, rfl⟩ := List.mem_map.mp hf
  obtain ⟨l', hl', hline, hspan'⟩ :=
    (concerns_overflow (List.mem_of_mem_filter ht) m (totalMinutes b.tasks)).on_line
  obtain rfl := line_eq_of_span_eq hl' hl (Option.some.inj (hspan'.symm.trans hspan))
  exact ⟨t, hline⟩

/-! ## What the check knows of a body -/

/-- Up to places, the findings of a timeline go by the labels and the minutes of its tasks. -/
theorem map_unplaced_findings_check (m : Metrics Float) (b : Block) :
    (check m b).findings.map Finding.unplaced =
      ((entries b.body).filterMap fun e =>
        findingUnder? b.index m (bodyMinutes b.body) ⟨e.1, e.2, ⟨0, 0⟩⟩).map
          Finding.unplaced := by
  rw [check_eq_findingsOn, Outcome.findings_ofFindings, map_unplaced_findingsOn, Block.lines,
    map_text_lines, totalMinutes_tasks, entries, List.filterMap_filterMap]
  congr 1
  refine List.filterMap_congr fun row _ => ?_
  rw [rowFinding?, Task.ofLine?]
  cases Task.splitFrom [] row <;> rfl

/-- **Timelines under one number with the same labels and minutes have the same outcome**, up to
places. -/
theorem unplaced_check_congr {m : Metrics Float} {b b' : Block} (hindex : b.index = b'.index)
    (h : entries b.body = entries b'.body) : (check m b).unplaced = (check m b').unplaced := by
  have hfindings : (check m b).findings.map Finding.unplaced =
      (check m b').findings.map Finding.unplaced := by
    rw [map_unplaced_findings_check, map_unplaced_findings_check, hindex, bodyMinutes,
      bodyMinutes, h]
  have hminutes : b.tasks.map Task.minutes = b'.tasks.map Task.minutes := by
    rw [Block.map_minutes_tasks, Block.map_minutes_tasks, h]
  rw [check_eq, Outcome.findings_ofFindings, check_eq, Outcome.findings_ofFindings] at hfindings
  rw [check_eq, check_eq, Outcome.unplaced_ofFindings, Outcome.unplaced_ofFindings, hfindings,
    hindex, passNote_of_perm (.of_eq hminutes)]

/-! ## A header between other rows -/

theorem HeaderRow.firstWord_ne_nil {row : Text} (h : HeaderRow row) :
    Text.firstWord row ≠ [] := by
  have hnil : [] ∉ headerWords := by decide +kernel
  exact ne_of_mem_of_not_mem h.firstWord_mem hnil

theorem HeaderRow.splitFrom_eq_none_iff {row : Text} (h : HeaderRow row) :
    Task.splitFrom [] (Text.trim row) = none ↔ ¬ ReadsAsTask (Text.trim row) := by
  apply splitFrom_eq_none_iff_of_header
  rw [Text.firstWord_trim]
  exact h.firstWord_mem

section
variable {above below header : Text} (habove : above = [] ∨ above.getLast? = some '\n')
  (hbelow : below = [] ∨ below.head? = some '\n')
include habove hbelow

/-- The tasks above and below a header are those of the rows alone. -/
theorem entries_header (hrow : HeaderRow header) :
    entries (above ++ (header ++ below)) =
      entries above ++ ((Task.splitFrom [] (Text.trim header)).toList ++ entries below) := by
  rw [entries, Text.rows_between habove hbelow hrow.newline_not_mem hrow.firstWord_ne_nil,
    List.filterMap_append, entries, entries]
  cases h : Task.splitFrom [] (Text.trim header) <;> simp [h]

/-- **A header that does not read as a task might as well not be there.** -/
theorem entries_header_of_not_readsAsTask (hrow : HeaderRow header)
    (hnot : ¬ ReadsAsTask (Text.trim header)) :
    entries (above ++ (header ++ below)) = entries (above ++ below) := by
  rw [entries_header habove hbelow hrow, hrow.splitFrom_eq_none_iff.mpr hnot,
    Option.toList_none, List.nil_append, entries, entries, entries,
    Text.rows_append_of_getLast? habove, List.filterMap_append]

end

/-- **Which headers are tasks.**  A line of a timeline that begins with one of the words of
headers is a task exactly when one of its colons has a usable schedule behind it, and the check
makes no finding on it otherwise.  A header puts its task, if it is one, between those of the
rows above and below it.  If it is none, the total and the outcome are those of the timeline
without the header, up to places, and stay the same when its text is replaced by another one that
is no task either. -/
theorem header_is_task_iff (m : Metrics Float) :
    (∀ (b : Block) (l : Line), l ∈ b.lines → Text.firstWord l.text ∈ headerWords →
      ((∃ t, Task.ofLine? l = some t) ↔ ReadsAsTask l.text) ∧
      ((∃ f ∈ (check m b).findings, f.label.map Label.span = some l.span) →
        ReadsAsTask l.text)) ∧
    ∀ (index : Nat) (span span' span'' : Span) (above below header : Text),
      (above = [] ∨ above.getLast? = some '\n') → (below = [] ∨ below.head? = some '\n') →
      HeaderRow header →
      entries (above ++ (header ++ below)) =
        entries above ++ ((Task.splitFrom [] (Text.trim header)).toList ++ entries below) ∧
      (Task.splitFrom [] (Text.trim header) = none ↔ ¬ ReadsAsTask (Text.trim header)) ∧
      (¬ ReadsAsTask (Text.trim header) →
        totalMinutes (⟨index, above ++ (header ++ below), span⟩ : Block).tasks =
          totalMinutes (⟨index, above ++ below, span'⟩ : Block).tasks ∧
        (check m ⟨index, above ++ (header ++ below), span⟩).unplaced =
          (check m ⟨index, above ++ below, span'⟩).unplaced ∧
        ∀ header', HeaderRow header' → ¬ ReadsAsTask (Text.trim header') →
          (check m ⟨index, above ++ (header ++ below), span⟩).unplaced =
            (check m ⟨index, above ++ (header' ++ below), span''⟩).unplaced) := by
  constructor
  · intro b l hl hword
    have htask := exists_ofLine?_iff_of_header hword
    refine ⟨htask, ?_⟩
    rintro ⟨f, hf, hspan⟩
    exact htask.mp (exists_ofLine?_of_finding hl hf hspan)
  · intro index span span' span'' above below header habove hbelow hrow
    refine ⟨entries_header habove hbelow hrow, hrow.splitFrom_eq_none_iff, fun hnot => ?_⟩
    have hentries := entries_header_of_not_readsAsTask habove hbelow hrow hnot
    refine ⟨?_, unplaced_check_congr rfl hentries, fun header' hrow' hnot' => ?_⟩
    · rw [totalMinutes_tasks, totalMinutes_tasks, bodyMinutes, bodyMinutes, hentries]
    · refine unplaced_check_congr rfl (hentries.trans ?_)
      exact (entries_header_of_not_readsAsTask habove hbelow hrow' hnot').symm

/-- Headers with colons: behind the first one there is no second comma, behind the other one the
third field does not begin with digits. -/
theorem header_is_task_iff_of_plainHeaders :
    ¬ ReadsAsTask "title Plan: phase 1, then 2d".toList ∧
      totalMinutes (⟨1, "gantt\n".toList ++ (" title Plan: phase 1, then 2d".toList ++
          "\n Ship : s, 09:30, 5m".toList), ⟨0, 56⟩⟩ : Block).tasks =
        totalMinutes (⟨1, "gantt\n".toList ++ "\n Ship : s, 09:30, 5m".toList,
          ⟨0, 27⟩⟩ : Block).tasks ∧
      (check Settings.defaultMetrics ⟨1, "gantt\n".toList ++
          (" title Plan: phase 1, then 2d".toList ++ "\n Ship : s, 09:30, 5m".toList),
          ⟨0, 56⟩⟩).unplaced =
        (check Settings.defaultMetrics ⟨1, "gantt\n".toList ++
          ("section 2: a, b, no 5m".toList ++ "\n Ship : s, 09:30, 5m".toList),
          ⟨0, 49⟩⟩).unplaced := by
  have habove : "gantt\n".toList = [] ∨ "gantt\n".toList.getLast? = some '\n' :=
    Or.inr (by decide)
  have hbelow : "\n Ship : s, 09:30, 5m".toList = [] ∨
      "\n Ship : s, 09:30, 5m".toList.head? = some '\n' := Or.inr (by decide)
  have htitle : HeaderRow " title Plan: phase 1, then 2d".toList :=
    ⟨by decide, by decide +kernel⟩
  have hsection : HeaderRow "section 2: a, b, no 5m".toList := ⟨by decide, by decide +kernel⟩
  obtain ⟨-, hplain, hsame⟩ := (header_is_task_iff Settings.defaultMetrics).2 1 ⟨0, 56⟩ ⟨0, 27⟩
    ⟨0, 49⟩ _ _ _ habove hbelow htitle
  obtain ⟨-, hplain', -⟩ := (header_is_task_iff Settings.defaultMetrics).2 1 ⟨0, 49⟩ ⟨0, 27⟩
    ⟨0, 56⟩ _ _ _ habove hbelow hsection
  have hnot := hplain.mp (by decide +kernel)
  obtain ⟨htotal, -, hreplaced⟩ := hsame hnot
  exact ⟨hnot, htotal, hreplaced _ hsection (hplain'.mp (by decide +kernel))⟩

/-- A title with a colon and two commas, whose text goes on like a duration, is a task and draws
a finding; with other text it is none, and the timeline passes. -/
theorem finding_on_titleTask :
    (⟨"title Release plan: alpha, beta, 1d".toList, ⟨8, 43⟩⟩ : Line) ∈
        lines 0 "gantt\n  title Release plan: alpha, beta, 1d\n  Build : b, 00:00, 9d".toList ∧
      Text.firstWord "title Release plan: alpha, beta, 1d".toList ∈ headerWords ∧
      Task.ofLine? ⟨"title Release plan: alpha, beta, 1d".toList, ⟨8, 43⟩⟩ =
        some ⟨"title Release plan".toList, 1440, ⟨8, 43⟩⟩ ∧
      (check Settings.defaultMetrics
          ⟨1, "gantt\n  title Release plan: alpha, beta, 1d\n  Build : b, 00:00, 9d".toList,
            ⟨0, 66⟩⟩).findings.map (fun f => (f.code, f.label.map Label.span)) =
        [(.labelOverflow, some ⟨8, 43⟩)] ∧
      (check Settings.defaultMetrics
          ⟨1, "gantt\n  title Release plan (alpha, beta, 1d)\n  Build : b, 00:00, 9d".toList,
            ⟨0, 67⟩⟩).isPass = true := by
  decide +kernel

end DiagramLint.Timeline
