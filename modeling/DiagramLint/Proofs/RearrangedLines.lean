import DiagramLint.Proofs.QuadrantTitles
import DiagramLint.Proofs.TimelineOutcome
import Mathlib.Algebra.BigOperators.Group.List.Basic
import Mathlib.Data.List.Perm.Basic

/-!
# Rearranged lines

The checks go through the lines of a block one by one, and what they find on a line depends on
its text and, for a timeline, on the minutes of all tasks.  Neither depends on the order of the
lines, nor on lines that a check passes over: the minutes of a timeline are a sum held at a
bound, and its shortest task is a minimum.

`Rearranged` moves the lines of a body and puts in or takes out idle ones.  Whatever is read
off the lines one by one is the same then, up to the order (`Rearranged.perm_filterMap`), and
the outcomes of the checks agree (`checks_of_rearranged`): in their kind and their note, and in
what is found on each line.
-/

namespace DiagramLint

/-- **Lines moved, put in and taken out.**  The lines that are put in or taken out are idle,
and the others may end up in any order. -/
inductive Rearranged (idle : Text → Prop) : List Text → List Text → Prop
  | perm {xs ys : List Text} : xs.Perm ys → Rearranged idle xs ys
  | insert {x : Text} {xs ys : List Text} : idle x → Rearranged idle (xs ++ ys) (xs ++ x :: ys)
  | delete {x : Text} {xs ys : List Text} : idle x → Rearranged idle (xs ++ x :: ys) (xs ++ ys)
  | trans {xs ys zs : List Text} :
      Rearranged idle xs ys → Rearranged idle ys zs → Rearranged idle xs zs

/-- A line that is blank or no task. -/
def Timeline.Idle (row : Text) : Prop :=
  ∀ l, Line.ofPiece? 0 row = some l → Task.ofLine? l = none

instance : DecidablePred Timeline.Idle := fun row =>
  inferInstanceAs (Decidable (∀ l ∈ Line.ofPiece? 0 row, Task.ofLine? l = none))

/-- A line that is blank, not structural or ASCII throughout. -/
def Quadrant.Idle (row : Text) : Prop :=
  ∀ l, Line.ofPiece? 0 row = some l →
    Structure.ofText? l.text = none ∨ hasNonAscii l.text = false

instance : DecidablePred Quadrant.Idle := fun row =>
  inferInstanceAs (Decidable (∀ l ∈ Line.ofPiece? 0 row,
    Structure.ofText? l.text = none ∨ Quadrant.hasNonAscii l.text = false))

/-! ## What is read off the lines -/

/-- The trimmed text of a line, unless it is blank. -/
def Text.trimmed (row : Text) : List Text := ((Line.ofPiece? 0 row).map Line.text).toList

theorem Text.rows_eq_flatMap (body : Text) : rows body = (body.splitOn '\n').flatMap trimmed := by
  have hall : ∀ pieces : List Text,
      (pieces.map trim).filter (· ≠ []) = pieces.flatMap trimmed := by
    intro pieces
    induction pieces with
    | nil => rfl
    | cons row pieces ih =>
      rw [List.flatMap_cons, ← ih, List.map_cons]
      by_cases hrow : trim row = [] <;> simp [trimmed, Line.ofPiece?, hrow]
  exact hall _

/-- Reading lines one by one finds the same on rearranged lines, up to the order, when there
is nothing to be found on idle ones. -/
theorem Rearranged.perm_flatMap {α : Type} {idle : Text → Prop} {xs ys : List Text}
    {read : Text → List α} (h : Rearranged idle xs ys) (hidle : ∀ x, idle x → read x = []) :
    (xs.flatMap read).Perm (ys.flatMap read) := by
  induction h with
  | perm hperm => exact hperm.flatMap_right read
  | insert hx => simp [hidle _ hx]
  | delete hx => simp [hidle _ hx]
  | trans _ _ ih₁ ih₂ => exact ih₁.trans ih₂

namespace Rearranged

variable {idle : Text → Prop} {xs ys : List Text}

theorem symm (h : Rearranged idle xs ys) : Rearranged idle ys xs := by
  induction h with
  | perm hperm => exact .perm hperm.symm
  | insert hx => exact .delete hx
  | delete hx => exact .insert hx
  | trans _ _ ih₁ ih₂ => exact ih₂.trans ih₁

theorem cons (x : Text) (h : Rearranged idle xs ys) : Rearranged idle (x :: xs) (x :: ys) := by
  induction h with
  | perm hperm => exact .perm (hperm.cons x)
  -- the line in front joins what stands before the idle line
  | @insert y xs ys hx =>
      have hinsert : Rearranged idle (x :: xs ++ ys) (x :: xs ++ y :: ys) := .insert hx
      exact hinsert
  | @delete y xs ys hx =>
      have hdelete : Rearranged idle (x :: xs ++ y :: ys) (x :: xs ++ ys) := .delete hx
      exact hdelete
  | trans _ _ ih₁ ih₂ => exact ih₁.trans ih₂

variable [DecidablePred idle]

/-- All idle lines can be taken out. -/
theorem filter (xs : List Text) : Rearranged idle xs (xs.filter fun x => ¬ idle x) := by
  induction xs with
  | nil => exact .perm .nil
  | cons x xs ih =>
    by_cases hx : idle x
    · rw [List.filter_cons_of_neg (by simpa using hx)]
      have hdelete : Rearranged idle ([] ++ x :: xs) ([] ++ xs) := .delete hx
      exact hdelete.trans ih
    · rw [List.filter_cons_of_pos (by simpa using hx)]
      exact ih.cons x

/-- **Lines can be rearranged exactly when those that are not idle are the same**, up to their
order. -/
theorem iff_perm_filter : Rearranged idle xs ys ↔
    (xs.filter fun x => ¬ idle x).Perm (ys.filter fun x => ¬ idle x) := by
  constructor
  · intro h
    -- taking out the idle lines is reading the others one by one
    have hread : ∀ zs : List Text, (zs.filter fun x => ¬ idle x) =
        zs.flatMap fun x => if idle x then [] else [x] := by
      intro zs
      induction zs with
      | nil => rfl
      | cons z zs ih => by_cases hz : idle z <;> simp_all
    rw [hread, hread]
    exact h.perm_flatMap fun x hx => if_pos hx
  · intro h
    exact ((filter xs).trans (.perm h)).trans (filter ys).symm

instance : Decidable (Rearranged idle xs ys) := decidable_of_iff _ iff_perm_filter.symm

end Rearranged

theorem Rearranged.perm_filterMap {α : Type} {idle : Text → Prop} {body body' : Text}
    {read : Text → Option α} (h : Rearranged idle (body.splitOn '\n') (body'.splitOn '\n'))
    (hidle : ∀ row, idle row → ∀ l, Line.ofPiece? 0 row = some l → read l.text = none) :
    ((Text.rows body).filterMap read).Perm ((Text.rows body').filterMap read) := by
  rw [Text.rows_eq_flatMap, Text.rows_eq_flatMap, List.filterMap_flatMap, List.filterMap_flatMap]
  refine h.perm_flatMap fun row hrow => ?_
  rw [Text.trimmed]
  cases hline : Line.ofPiece? 0 row with
  | none => rfl
  | some l => simpa using hidle row hrow l hline

/-! ## Outcomes that agree line by line -/

/-- What is found on the lines with these texts, with the labels on the lines. -/
def findingsOn (found : Text → Option Finding) (ls : List Line) : List Finding :=
  ls.filterMap fun l => (found l.text).map (Finding.placed l.span)

theorem map_unplaced_findingsOn (found : Text → Option Finding) (ls : List Line) :
    (findingsOn found ls).map Finding.unplaced =
      ((ls.map Line.text).filterMap found).map Finding.unplaced := by
  have hgoes : GoesByText fun l => (found l.text).map (Finding.placed l.span) := by
    intro l
    rw [Option.map_map]
    exact congrArg (Option.map · (found l.text))
      (funext fun f => (f.placed_placed ⟨0, 0⟩ l.span).symm)
  rw [findingsOn, hgoes.map_unplaced, List.map_filterMap]
  rfl

/-- **Outcomes that agree line by line.**  They are of the same kind, with the same note when
they pass.  What is found on a line goes by its text, is the same in both outcomes, and is
listed in the order of the lines; so the findings are the same up to their order and their
places. -/
structure Outcome.Agree (ls ls' : List Line) (o o' : Outcome) : Prop where
  isPass_eq : o.isPass = o'.isPass
  note_iff : ∀ note, o.verdict = .passed note ↔ o'.verdict = .passed note
  line_by_line : ∃ found, o.findings = findingsOn found ls ∧ o'.findings = findingsOn found ls'
  perm : (o.findings.map Finding.unplaced).Perm (o'.findings.map Finding.unplaced)

theorem Outcome.agree_of_perm (i : Nat) (c : Chart) (n : PassNote)
    {found : Text → Option Finding} {ls ls' : List Line}
    (h : ((ls.map Line.text).filterMap found).Perm ((ls'.map Line.text).filterMap found)) :
    Agree ls ls' (ofFindings i c (findingsOn found ls) n)
      (ofFindings i c (findingsOn found ls') n) := by
  have hperm : ((findingsOn found ls).map Finding.unplaced).Perm
      ((findingsOn found ls').map Finding.unplaced) := by
    rw [map_unplaced_findingsOn, map_unplaced_findingsOn]
    exact h.map _
  have hnil : findingsOn found ls = [] ↔ findingsOn found ls' = [] := by
    have hlength := hperm.length_eq
    rw [List.length_map, List.length_map] at hlength
    rw [← List.length_eq_zero_iff, hlength, List.length_eq_zero_iff]
  refine ⟨?_, fun note => ?_, ⟨found, ?_, ?_⟩, ?_⟩
  · rw [isPass_ofFindings, isPass_ofFindings, Bool.eq_iff_iff, List.isEmpty_iff, List.isEmpty_iff]
    exact hnil
  · rw [verdict_ofFindings_eq_passed_iff, verdict_ofFindings_eq_passed_iff, hnil]
  · exact findings_ofFindings ..
  · exact findings_ofFindings ..
  · rwa [findings_ofFindings, findings_ofFindings]

/-! ## The two checks -/

namespace Timeline

/-- The finding on a row of a chart with `total` minutes, without a place. -/
def rowFinding? (index : Nat) (m : Metrics Float) (total : Nat) (row : Text) : Option Finding :=
  (Task.ofLine? ⟨row, ⟨0, 0⟩⟩).bind (findingUnder? index m total)

/-- The check of a timeline goes row by row, once the minutes are counted. -/
theorem check_eq_findingsOn (m : Metrics Float) (b : Block) :
    check m b = .ofFindings b.index .gantt
      (findingsOn (rowFinding? b.index m (totalMinutes b.tasks)) b.lines)
      (passNote b.tasks) := by
  have hfound : ∀ total, b.tasks.filterMap (findingUnder? b.index m total) =
      findingsOn (rowFinding? b.index m total) b.lines := by
    intro total
    rw [Block.tasks, List.filterMap_filterMap, funext (goesByText b.index m total)]
    rfl
  rw [check_eq, hfound]

variable {ts ts' : List Task} (h : (ts.map Task.minutes).Perm (ts'.map Task.minutes))
include h

theorem totalMinutes_of_perm : totalMinutes ts = totalMinutes ts' := by
  rw [totalMinutes_eq, totalMinutes_eq, h.sum_eq]

theorem leastMinutes_of_perm : leastMinutes ts = leastMinutes ts' := by
  have hmin : (ts.map Task.minutes).min? = (ts'.map Task.minutes).min? := by
    refine Option.ext fun n => ?_
    rw [List.min?_eq_some_iff, List.min?_eq_some_iff, h.mem_iff]
    simp only [h.mem_iff]
  rw [leastMinutes, leastMinutes, hmin]

/-- The note goes by the minutes of the tasks, in any order. -/
theorem passNote_of_perm : passNote ts = passNote ts' := by
  have hlength := h.length_eq
  rw [List.length_map, List.length_map] at hlength
  have hnil : ts = [] ↔ ts' = [] := by
    rw [← List.length_eq_zero_iff, hlength, List.length_eq_zero_iff]
  simp only [passNote, note, hnil, hlength, totalMinutes_of_perm h, leastMinutes_of_perm h]

omit h in
/-- Rearranged timelines have the same tasks, up to their order and places. -/
theorem agree_of_rearranged {body body' : Text}
    (h : Rearranged Idle (body.splitOn '\n') (body'.splitOn '\n')) (m : Metrics Float)
    (index : Nat) (span span' : Span) :
    Outcome.Agree (lines span.start body) (lines span'.start body')
      (check m ⟨index, body, span⟩) (check m ⟨index, body', span'⟩) := by
  have hsplit : ∀ row, Idle row → ∀ l, Line.ofPiece? 0 row = some l →
      Task.splitFrom [] l.text = none :=
    fun row hrow l hl => Option.map_eq_none_iff.mp (hrow l hl)
  have hminutes : ((⟨index, body, span⟩ : Block).tasks.map Task.minutes).Perm
      ((⟨index, body', span'⟩ : Block).tasks.map Task.minutes) := by
    rw [Block.map_minutes_tasks, Block.map_minutes_tasks]
    exact (h.perm_filterMap hsplit).map Prod.snd
  rw [check_eq_findingsOn, check_eq_findingsOn, totalMinutes_of_perm hminutes,
    passNote_of_perm hminutes]
  apply Outcome.agree_of_perm
  show (((lines span.start body).map Line.text).filterMap _).Perm
    (((lines span'.start body').map Line.text).filterMap _)
  rw [map_text_lines, map_text_lines]
  refine h.perm_filterMap fun row hrow l hl => ?_
  rw [rowFinding?, Task.ofLine?, hsplit row hrow l hl]
  rfl

end Timeline

namespace Quadrant

theorem check_eq_findingsOn (previewLength : Nat) (b : Block) :
    check previewLength b = .ofFindings b.index .quadrant
      (findingsOn (rowFinding? previewLength b.index) b.lines) .clean := by
  have hfindings := findings_check previewLength b
  rw [check, Outcome.findings_ofFindings, funext (goesByText previewLength b.index)] at hfindings
  rw [check, hfindings]
  rfl

theorem agree_of_rearranged {body body' : Text}
    (h : Rearranged Idle (body.splitOn '\n') (body'.splitOn '\n')) (previewLength index : Nat)
    (span span' : Span) :
    Outcome.Agree (lines span.start body) (lines span'.start body')
      (check previewLength ⟨index, body, span⟩) (check previewLength ⟨index, body', span'⟩) := by
  rw [check_eq_findingsOn, check_eq_findingsOn]
  apply Outcome.agree_of_perm
  show (((lines span.start body).map Line.text).filterMap _).Perm
    (((lines span'.start body').map Line.text).filterMap _)
  rw [map_text_lines, map_text_lines]
  refine h.perm_filterMap fun row hrow l hl => ?_
  rw [rowFinding?_eq_none_iff]
  rintro ⟨hkind, hchar⟩
  rcases hrow l hl with hnone | hascii
  · rw [hnone] at hkind
    cases hkind
  · obtain ⟨c, hc, hwide⟩ := hchar
    rw [hasNonAscii, List.any_eq_false] at hascii
    exact hascii c hc (decide_eq_true hwide)

end Quadrant

/-- **Only lines that matter, in any order.**  Let the lines of a body be moved, and let lines
that are no tasks be put in or taken out: then the outcomes of the check of timelines agree.
The same holds for the check of quadrant charts, with lines that are not structural or have
ASCII characters only.  What the body is announced as does not matter. -/
theorem checks_of_rearranged (index : Nat) (span span' : Span) (body body' : Text) :
    (Rearranged Timeline.Idle (body.splitOn '\n') (body'.splitOn '\n') →
      ∀ m : Metrics Float, Outcome.Agree (lines span.start body) (lines span'.start body')
        (Timeline.check m ⟨index, body, span⟩) (Timeline.check m ⟨index, body', span'⟩)) ∧
    (Rearranged Quadrant.Idle (body.splitOn '\n') (body'.splitOn '\n') →
      ∀ previewLength : Nat,
        Outcome.Agree (lines span.start body) (lines span'.start body')
          (Quadrant.check previewLength ⟨index, body, span⟩)
          (Quadrant.check previewLength ⟨index, body', span'⟩)) := by
  constructor
  · intro h m
    exact Timeline.agree_of_rearranged h m index span span'
  · intro h previewLength
    exact Quadrant.agree_of_rearranged h previewLength index span span'

/-- The announcing word is taken out, a comment and a title are put in, and the tasks and the
axes change places. -/
theorem checks_of_rearranged_of_movedLines :
    let body := ("gantt\n  Twelve chars : a, 00:00, 1m\n  Rest : b, after a, 7m\n" ++
      "x-axis 低 --> 高\ny-axis 低 --> 高").toList
    let body' := ("  Rest : b, after a, 7m\n%% Rest: first\ntitle 題\ny-axis 低 --> 高\n\n" ++
      "x-axis 低 --> 高\n  Twelve chars : a, 00:00, 1m").toList
    Rearranged Timeline.Idle (body.splitOn '\n') (body'.splitOn '\n') ∧
      Rearranged Quadrant.Idle (body.splitOn '\n') (body'.splitOn '\n') ∧
      (Timeline.check Settings.defaultMetrics ⟨1, body, ⟨0, 97⟩⟩).isPass = false ∧
      (Timeline.check Settings.defaultMetrics ⟨1, body', ⟨7, 124⟩⟩).isPass = false ∧
      ((Quadrant.check 60 ⟨1, body, ⟨0, 97⟩⟩).findings.map Finding.unplaced).Perm
        ((Quadrant.check 60 ⟨1, body', ⟨7, 124⟩⟩).findings.map Finding.unplaced) := by
  intro body body'
  have htasks : Rearranged Timeline.Idle (body.splitOn '\n') (body'.splitOn '\n') := by
    decide +kernel
  have haxes : Rearranged Quadrant.Idle (body.splitOn '\n') (body'.splitOn '\n') := by
    decide +kernel
  have hfail : (Timeline.check Settings.defaultMetrics ⟨1, body, ⟨0, 97⟩⟩).isPass = false := by
    decide +kernel
  obtain ⟨htimeline, hquadrant⟩ := checks_of_rearranged 1 ⟨0, 97⟩ ⟨7, 124⟩ body body'
  exact ⟨htasks, haxes, hfail,
    (htimeline htasks Settings.defaultMetrics).isPass_eq.symm.trans hfail,
    (hquadrant haxes 60).perm⟩

end DiagramLint
