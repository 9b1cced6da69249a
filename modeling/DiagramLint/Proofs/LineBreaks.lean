import DiagramLint.Proofs.BodyRows
import DiagramLint.Proofs.PlaceIndependence
import DiagramLint.Report.Console

/-!
# Two forms of line breaks

A row may end with a newline, or with a carriage return and a newline.  `Text.crlf` changes
every newline of a text to the second form.  A carriage return is blank, so it vanishes when
rows are trimmed (`Text.rows_crlf`) and does no harm in the gap of a literal.

The scan for literals commutes with the change (`Literal.read?_crlf`): scanning by a condition
that lets both characters pass, as the scans for the delimiter and for the end of the gap do,
passes as much of the changed text (`Text.takeWhile_crlf`).  The one thing to see to is the
field.  A new carriage return can complete a field that ends with one, but then a newline
follows where the colon should be.
-/

namespace DiagramLint

namespace Text

/-- The text with a carriage return in front of each newline. -/
def crlf (t : Text) : Text := t.flatMap fun c => if c = '\n' then ['\r', '\n'] else [c]

@[simp] theorem crlf_nil : crlf [] = [] := rfl

@[simp] theorem crlf_newline_cons (t : Text) : crlf ('\n' :: t) = '\r' :: '\n' :: crlf t := rfl

theorem crlf_cons_of_ne {c : Char} (h : c ≠ '\n') (t : Text) : crlf (c :: t) = c :: crlf t := by
  simp [crlf, h]

theorem crlf_append (s t : Text) : crlf (s ++ t) = crlf s ++ crlf t := List.flatMap_append

theorem crlf_of_not_mem {t : Text} (h : '\n' ∉ t) : crlf t = t := by
  induction t with
  | nil => rfl
  | cons c t ih =>
    rw [List.mem_cons, not_or] at h
    rw [crlf_cons_of_ne (Ne.symm h.1), ih h.2]

/-- **The rows of a text do not change.** -/
theorem rows_crlf (t : Text) : rows (crlf t) = rows t := by
  induction t using rowInduction with
  | last row hrow => rw [crlf_of_not_mem hrow]
  | more row rest hrow ih =>
    -- the row gets a carriage return at its end
    rw [crlf_append, crlf_of_not_mem hrow, crlf_newline_cons,
      show row ++ '\r' :: '\n' :: crlf rest = (row ++ ['\r']) ++ '\n' :: crlf rest by simp,
      rows_append_newline, rows_append_newline, rows_concat_blank isBlank_return, ih]

/-! ## Scans -/

section
variable {p : Char → Bool} (hreturn : p '\r' = true) (hnewline : p '\n' = true)
include hreturn hnewline

/-- A scan that neither character stops passes as much of the changed text. -/
theorem takeWhile_crlf (t : Text) : (crlf t).takeWhile p = crlf (t.takeWhile p) := by
  induction t with
  | nil => rfl
  | cons c t ih =>
    by_cases hc : c = '\n'
    · subst hc
      simp [hreturn, hnewline, ih]
    · rw [crlf_cons_of_ne hc, List.takeWhile_cons, List.takeWhile_cons]
      split
      · rw [crlf_cons_of_ne hc, ih]
      · rfl

theorem dropWhile_crlf (t : Text) : (crlf t).dropWhile p = crlf (t.dropWhile p) := by
  induction t with
  | nil => rfl
  | cons c t ih =>
    by_cases hc : c = '\n'
    · subst hc
      simp [hreturn, hnewline, ih]
    · rw [crlf_cons_of_ne hc, List.dropWhile_cons, List.dropWhile_cons]
      split
      · exact ih
      · rw [crlf_cons_of_ne hc]

end

/-- A start without newlines is found as before, or only now and with a newline behind it. -/
theorem after?_crlf {start : Text} (hstart : '\n' ∉ start) (t : Text) :
    after? start (crlf t) = (after? start t).map crlf ∨
      after? start t = none ∧ ∃ rest, after? start (crlf t) = some ('\n' :: rest) := by
  induction start generalizing t with
  | nil => exact Or.inl rfl
  | cons s start ih =>
    rw [List.mem_cons, not_or] at hstart
    cases t with
    | nil => exact Or.inl rfl
    | cons c t =>
      by_cases hc : c = '\n'
      · subst hc
        have hnone : after? (s :: start) ('\n' :: t) = none := by
          rw [after?, if_neg (Ne.symm hstart.1)]
        rw [crlf_newline_cons, hnone]
        by_cases hs : s = '\r'
        · -- the new carriage return is the last character that can match
          subst hs
          cases start with
          | nil => exact Or.inr ⟨rfl, crlf t, rfl⟩
          | cons s' start =>
            have hs' : s' ≠ '\n' := fun h => hstart.2 (by rw [h]; exact List.mem_cons_self)
            exact Or.inl (by rw [after?, if_pos rfl, after?, if_neg hs']; rfl)
        · exact Or.inl (by rw [after?, if_neg hs]; rfl)
      · rw [crlf_cons_of_ne hc, after?, after?]
        split
        · exact ih hstart.2 t
        · exact Or.inl rfl

end Text

/-! ## Literals -/

namespace Literal

open Text

/-- The literal with the other form of line breaks. -/
def crlf (l : Literal) : Literal := ⟨Text.crlf l.gap, Text.crlf l.body⟩

/-- What is read with the other form of line breaks. -/
def readCrlf (r : Literal × Text) : Literal × Text := (r.1.crlf, Text.crlf r.2)

section
variable {d : Char} (hd : isBlank d = false)
include hd

theorem ne_of_delimiter : '\r' ≠ d ∧ '\n' ≠ d := by
  constructor <;> rintro rfl <;> exact absurd hd (by decide)

theorem readBody?_crlf (t : Text) :
    readBody? d (Text.crlf t) =
      (readBody? d t).map fun (body, rest) => (Text.crlf body, Text.crlf rest) := by
  obtain ⟨hreturn, hnewline⟩ := ne_of_delimiter hd
  rw [readBody?, readBody?, takeWhile_crlf (by simpa using hreturn) (by simpa using hnewline),
    dropWhile_crlf (by simpa using hreturn) (by simpa using hnewline)]
  cases hpre : t.takeWhile fun c => c ≠ d with
  | nil => rfl
  | cons c body =>
    cases hdrop : t.dropWhile fun c => c ≠ d with
    | nil => by_cases hc : c = '\n' <;> simp [hc, crlf_cons_of_ne]
    | cons d' rest =>
      obtain ⟨-, -, rfl⟩ := Text.scan_ne_eq_iff.mp ⟨hpre, hdrop⟩
      rw [crlf_cons_of_ne hnewline.symm]
      by_cases hc : c = '\n' <;> simp [hc, crlf_cons_of_ne]

theorem readTail?_crlf (t : Text) :
    readTail? d (Text.crlf t) = (readTail? d t).map readCrlf := by
  cases t with
  | nil => rfl
  | cons c t =>
    by_cases hcolon : c = ':'
    · subst hcolon
      have htrim : trimStart (Text.crlf t) = Text.crlf (trimStart t) :=
        dropWhile_crlf isBlank_return isBlank_newline t
      have hlead : leading (Text.crlf t) = Text.crlf (leading t) :=
        takeWhile_crlf isBlank_return isBlank_newline t
      rw [crlf_cons_of_ne (by decide)]
      simp only [readTail?]
      rw [htrim, hlead]
      cases hstart : trimStart t with
      | nil => rfl
      | cons c inner =>
        have hc : c ≠ '\n' := by
          rintro rfl
          have hblank := (Text.scan_eq_iff.mp ⟨rfl, hstart⟩).2.2
          rw [isBlank_newline] at hblank
          cases hblank
        rw [crlf_cons_of_ne hc]
        simp only
        split
        · rw [readBody?_crlf hd, Option.map_map, Option.map_map]
          rfl
        · rfl
    · -- no literal goes on without a colon
      have hnone : ∀ (c : Char) (t : Text), c ≠ ':' → readTail? d (c :: t) = none := by
        intro c t hc
        unfold readTail?
        split
        · rename_i h
          exact absurd (List.cons.inj h).1 hc
        · rfl
      rw [hnone c t hcolon]
      by_cases hc : c = '\n'
      · rw [hc, crlf_newline_cons, hnone _ _ (by decide)]
        rfl
      · rw [crlf_cons_of_ne hc, hnone _ _ hcolon]
        rfl

end

/-- **Reading a literal commutes with the change of line breaks.** -/
theorem read?_crlf {m : Marker} (hfield : '\n' ∉ m.field) (hblank : isBlank m.delimiter = false)
    (t : Text) : read? m (Text.crlf t) = (read? m t).map readCrlf := by
  rw [read?, read?]
  rcases after?_crlf hfield t with h | ⟨hnone, rest, h⟩
  · rw [h]
    cases after? m.field t with
    | none => rfl
    | some tail => exact readTail?_crlf hblank tail
  · rw [h, hnone]
    rfl

end Literal

/-! ## Blocks -/

section
variable {m : Marker}

/-- **The scan finds blocks with the same rows**, wherever they stand. -/
theorem map_rows_extractFrom_crlf (hne : m.field ≠ []) (hfield : '\n' ∉ m.field)
    (hblank : Text.isBlank m.delimiter = false) (offset offset' index : Nat) (t : Text) :
    (extractFrom m offset' index (Text.crlf t)).map (fun b => Text.rows b.body) =
      (extractFrom m offset index t).map fun b => Text.rows b.body := by
  fun_induction extractFrom m offset index t generalizing offset' with
  | case1 offset index t l rest hread ih =>
    have hread' := Literal.read?_crlf hfield hblank t
    rw [hread] at hread'
    rw [extractFrom_of_read? hread', List.map_cons, List.map_cons, ih]
    simp [Block.ofRaw, Literal.crlf, Text.rows_crlf]
  | case2 offset index hread => simp
  | case3 offset index c t hread ih =>
    have hread' := Literal.read?_crlf hfield hblank (c :: t)
    rw [hread] at hread'
    by_cases hc : c = '\n'
    · subst hc
      -- the field does not begin with a newline
      have hnewline : Literal.read? m ('\n' :: Text.crlf t) = none := by
        obtain ⟨d, field, hcons⟩ := List.exists_cons_of_ne_nil hne
        have hd : d ≠ '\n' := fun h => hfield (by rw [hcons, h]; exact List.mem_cons_self)
        rw [Literal.read?, hcons, Text.after?, if_neg hd]
        rfl
      rw [Text.crlf_newline_cons] at hread' ⊢
      rw [extractFrom_cons_of_read?_eq_none hread', extractFrom_cons_of_read?_eq_none hnewline, ih]
    · rw [Text.crlf_cons_of_ne hc] at hread' ⊢
      rw [extractFrom_cons_of_read?_eq_none hread', ih]

/-- **With the other form of line breaks, the blocks have the same rows.** -/
theorem map_rows_extract_crlf (hfield : '\n' ∉ m.field) (source : Text) :
    (extract m (Text.crlf source)).map (fun b => Text.rows b.body) =
      (extract m source).map fun b => Text.rows b.body := by
  cases hblank : Text.isBlank m.delimiter with
  | true => rw [extract_eq_nil_of_blank hblank, extract_eq_nil_of_blank hblank]
  | false =>
    unfold extract
    split
    · rfl
    · rename_i hne
      exact map_rows_extractFrom_crlf hne hfield hblank 0 0 1 source

end

/-- **What a run says does not depend on layout and places.**  Two sources whose blocks have the
same lines have the same outcomes up to the spans of labels, the same counts and exit code, and
the same report on every console.  So does a source with carriage returns in front of its
newlines, if the field has no newline in it. -/
theorem layout_independence (s : Settings) :
    (∀ source source' : Text,
      ((extract s.marker source).map fun b => b.lines.map Line.text) =
        ((extract s.marker source').map fun b => b.lines.map Line.text) →
      (check s source).outcomes.toList.map Outcome.unplaced =
          (check s source').outcomes.toList.map Outcome.unplaced ∧
        (check s source).diagramCount = (check s source').diagramCount ∧
        (check s source).findingCount = (check s source').findingCount ∧
        (check s source).exitCode = (check s source').exitCode ∧
        ∀ c : Console,
          c.deliver (check s source).report = c.deliver (check s source').report) ∧
    ('\n' ∉ s.marker.field → ∀ (source : Text) (c : Console),
      c.deliver (check s (Text.crlf source)).report = c.deliver (check s source).report) := by
  have hlines : ∀ b : Block, b.lines.map Line.text = Text.rows b.body := fun b =>
    map_text_lines b.span.start b.body
  simp only [hlines]
  constructor
  · intro source source' h
    have houtcomes := unplaced_outcomes_check_congr h
    have hcount := findingCount_check_congr houtcomes
    refine ⟨houtcomes, Tally.diagramCount_congr houtcomes, hcount, ?_, fun c => ?_⟩
    · rw [Tally.exitCode, Tally.exitCode, Tally.isClean, Tally.isClean, hcount]
    · rw [Tally.report_congr houtcomes hcount]
  · intro hfield source c
    have houtcomes := unplaced_outcomes_check_congr (map_rows_extract_crlf hfield source)
    rw [Tally.report_congr houtcomes (findingCount_check_congr houtcomes)]

/-- The same timeline in two layouts, one of them with both forms of line breaks; its first
label does not fit. -/
theorem layout_independence_of_timeline :
    ((Console.ofCapacities none none).deliver
        (check .default "diagram: `gantt\n Plan: a, 0, 1m\n Rest: b, 1, 1w`".toList).report =
      (Console.ofCapacities none none).deliver
        (check .default
          "é diagram:`\r\ngantt \n\n\tPlan: a, 0, 1m\r\nRest: b, 1, 1w `".toList).report) ∧
    ((Console.ofCapacities none none).deliver
        (check .default "diagram: `gantt\r\n Plan: a, 0, 1m\r\n Rest: b, 1, 1w`".toList).report =
      (Console.ofCapacities none none).deliver
        (check .default "diagram: `gantt\n Plan: a, 0, 1m\n Rest: b, 1, 1w`".toList).report) := by
  obtain ⟨hlayout, hcrlf⟩ := layout_independence .default
  constructor
  · obtain ⟨-, -, -, -, hreport⟩ := hlayout
      "diagram: `gantt\n Plan: a, 0, 1m\n Rest: b, 1, 1w`".toList
      "é diagram:`\r\ngantt \n\n\tPlan: a, 0, 1m\r\nRest: b, 1, 1w `".toList (by decide +kernel)
    exact hreport _
  · have hsource : "diagram: `gantt\r\n Plan: a, 0, 1m\r\n Rest: b, 1, 1w`".toList =
        Text.crlf "diagram: `gantt\n Plan: a, 0, 1m\n Rest: b, 1, 1w`".toList := by decide
    rw [hsource]
    exact hcrlf (by decide) _ _

end DiagramLint
