import DiagramLint.Chart
import DiagramLint.Line
import DiagramLint.Proofs.TextRuns
import Mathlib.Data.List.Induction

/-!
# The rows of a body

A row is what stands between two newlines.  Every text is a single row, or a row with
a newline and another text behind it, and `Text.rowInduction` is the induction over
this shape; what is said about lines below is proved by it.

`Text.rows` lists the trimmed rows that are not blank.  It is what the checks see of a
body once places are forgotten: the lines of a body have these texts wherever the body
stands (`map_text_lines`), and the blank characters around a body do not change them
(`rows_trim`).

The places are described by `Line.Within`: a line is a trimmed row, and its span lies on
that row in the body.  Lines come in order and do not touch (`pairwise_lines`).

The chart of a body is announced by its first word (`Chart.leadingToken_eq`): looking
for the first row that is not blank and then for the first word of that row finds the
first word of the whole text, since newlines are blank too.
-/

namespace DiagramLint

namespace Text

/-- **Induction over the rows of a text.** -/
@[elab_as_elim]
theorem rowInduction {motive : Text → Prop}
    (last : ∀ row : Text, '\n' ∉ row → motive row)
    (more : ∀ row rest : Text, '\n' ∉ row → motive rest → motive (row ++ '\n' :: rest))
    (t : Text) : motive t := by
  by_cases h : '\n' ∈ t
  · obtain ⟨row, rest, ht, hrow⟩ := List.eq_append_cons_of_mem h
    have hlt : rest.length < t.length := by
      rw [ht, List.length_append, List.length_cons]
      omega
    exact ht ▸ more row rest hrow (rowInduction last more rest)
  · exact last t h
termination_by t.length

/-- The rows that are not blank, without the blank characters at their ends. -/
def rows (t : Text) : List Text := ((t.splitOn '\n').map trim).filter (· ≠ [])

/-- **A newline parts the rows in front of it from those behind it.** -/
theorem rows_append_newline (x y : Text) : rows (x ++ '\n' :: y) = rows x ++ rows y := by
  rw [rows, List.splitOn_append_cons_self, List.map_append, List.filter_append]
  rfl

theorem rows_of_not_mem {row : Text} (h : '\n' ∉ row) :
    rows row = if trim row = [] then [] else [trim row] := by
  rw [rows, List.splitOn_eq_singleton h]
  by_cases hrow : trim row = [] <;> simp [hrow]

@[simp] theorem rows_nil : rows [] = [] := rfl

theorem rows_append_of_getLast? {x : Text} (hx : x = [] ∨ x.getLast? = some '\n') (y : Text) :
    rows (x ++ y) = rows x ++ rows y := by
  rcases hx with rfl | hlast
  · rfl
  · obtain ⟨front, rfl⟩ := List.getLast?_eq_some_iff.mp hlast
    rw [List.append_assoc, List.singleton_append, rows_append_newline, rows_append_newline,
      rows_nil, List.append_nil]

theorem rows_append_of_head? (x : Text) {y : Text} (hy : y = [] ∨ y.head? = some '\n') :
    rows (x ++ y) = rows x ++ rows y := by
  rcases hy with rfl | hhead
  · rw [rows_nil, List.append_nil, List.append_nil]
  · obtain ⟨rest, rfl⟩ := List.head?_eq_some_iff.mp hhead
    rw [rows_append_newline, ← List.nil_append ('\n' :: rest), rows_append_newline, rows_nil,
      List.nil_append]

theorem rows_cons_blank {c : Char} (hc : isBlank c = true) (t : Text) :
    rows (c :: t) = rows t := by
  by_cases hn : c = '\n'
  · -- a newline in front makes an empty row
    subst hn
    exact rows_append_newline [] t
  · -- any other blank character belongs to the first row, which is trimmed
    induction t using rowInduction with
    | last row hrow =>
      have hmem : '\n' ∉ c :: row := by simp [Ne.symm hn, hrow]
      rw [rows_of_not_mem hmem, rows_of_not_mem hrow, trim_cons_blank hc]
    | more row rest hrow _ =>
      have hmem : '\n' ∉ c :: row := by simp [Ne.symm hn, hrow]
      rw [← List.cons_append, rows_append_newline, rows_append_newline, rows_of_not_mem hmem,
        rows_of_not_mem hrow, trim_cons_blank hc]

theorem rows_concat_blank {c : Char} (hc : isBlank c = true) (t : Text) :
    rows (t ++ [c]) = rows t := by
  by_cases hn : c = '\n'
  · subst hn
    rw [rows_append_newline, rows_nil, List.append_nil]
  · induction t using rowInduction with
    | last row hrow =>
      have hmem : '\n' ∉ row ++ [c] := by simp [Ne.symm hn, hrow]
      rw [rows_of_not_mem hmem, rows_of_not_mem hrow, trim_concat_blank hc]
    | more row rest _ ih =>
      rw [List.append_assoc, List.cons_append, rows_append_newline, rows_append_newline, ih]

theorem rows_blank_append {x : Text} (hx : ∀ c ∈ x, isBlank c = true) (t : Text) :
    rows (x ++ t) = rows t := by
  induction x with
  | nil => rfl
  | cons c x ih =>
    rw [List.cons_append, rows_cons_blank (hx c List.mem_cons_self)]
    exact ih fun d hd => hx d (List.mem_cons_of_mem c hd)

theorem rows_append_blank {x : Text} (hx : ∀ c ∈ x, isBlank c = true) (t : Text) :
    rows (t ++ x) = rows t := by
  induction x using List.reverseRecOn with
  | nil => rw [List.append_nil]
  | append_singleton x c ih =>
    rw [← List.append_assoc, rows_concat_blank (hx c (by simp))]
    exact ih fun d hd => hx d (by simp [hd])

/-- **Trimming keeps the rows.** -/
@[simp] theorem rows_trim (t : Text) : rows (trim t) = rows t := by
  conv_rhs => rw [← leading_append_trim_append t]
  rw [rows_append_blank fun _ => isBlank_of_mem_trailing,
    rows_blank_append fun _ => isBlank_of_mem_leading]

/-- The first word of a text is the first word of its first row. -/
theorem firstWord_eq_head_rows (t : Text) :
    firstWord t = ((rows t).head?.map firstWord).getD [] := by
  have single : ∀ row : Text, '\n' ∉ row →
      firstWord row = ((rows row).head?.map firstWord).getD [] := by
    intro row hrow
    rw [rows_of_not_mem hrow]
    split
    · rename_i hnil
      exact firstWord_eq_nil_of_blank (trim_eq_nil_iff.mp hnil)
    · exact (firstWord_trim row).symm
  induction t using rowInduction with
  | last row hrow => exact single row hrow
  | more row rest hrow ih =>
    rw [rows_append_newline, List.head?_append]
    by_cases hnil : trim row = []
    · -- a blank row is passed over, with its newline
      have hblank := trim_eq_nil_iff.mp hnil
      have hrows : rows row = [] := by rw [rows_of_not_mem hrow, if_pos hnil]
      rw [show row ++ '\n' :: rest = (row ++ ['\n']) ++ rest by simp,
        firstWord_blank_append (by simpa [or_imp, forall_and] using hblank), ih, hrows]
      rfl
    · -- the word ends at the newline behind the row, if not before
      have hstart : trimStart row ≠ [] := fun h =>
        hnil (trim_eq_nil_iff.mpr (trimStart_eq_nil_iff.mp h))
      rw [firstWord_append_cons hstart isBlank_newline, single row hrow,
        rows_of_not_mem hrow, if_neg hnil]
      rfl

/-- **A row between other rows.**  A row with a word in it stands, trimmed, between the rows in
front of it and those behind it. -/
theorem rows_between {above row below : Text} (habove : above = [] ∨ above.getLast? = some '\n')
    (hbelow : below = [] ∨ below.head? = some '\n') (hrow : '\n' ∉ row)
    (hword : firstWord row ≠ []) :
    rows (above ++ (row ++ below)) = rows above ++ trim row :: rows below := by
  have hne : trim row ≠ [] := fun hnil =>
    hword (firstWord_eq_nil_of_blank (trim_eq_nil_iff.mp hnil))
  rw [rows_append_of_getLast? habove, rows_append_of_head? _ hbelow, rows_of_not_mem hrow,
    if_neg hne, List.singleton_append]

end Text

/-! ## The word that announces a chart -/

namespace Chart

/-- A carriage return at the end of a row is blank, so trimming takes it away. -/
theorem trim_dropReturn (row : Text) : Text.trim (dropReturn row) = Text.trim row := by
  unfold dropReturn
  split
  · rename_i h
    obtain ⟨front, rfl⟩ := List.getLast?_eq_some_iff.mp h
    rw [List.dropLast_concat, Text.trim_concat_blank Text.isBlank_return]
  · rfl

/-- **The announcing word is the first word of the body.** -/
theorem leadingToken_eq (body : Text) : leadingToken body = Text.firstWord body := by
  have hrows : ((body.splitOn '\n').map fun row => Text.trim (dropReturn row)).find?
      (fun row => row ≠ []) = (Text.rows body).head? := by
    rw [Text.rows, List.head?_filter]
    simp only [trim_dropReturn]
  rw [leadingToken, hrows, Text.firstWord_eq_head_rows]
  cases (Text.rows body).head? <;> rfl

end Chart

/-! ## Lines and their places -/

namespace Line

/-- The line is a trimmed row of a body that begins at byte `base`, and its span lies
on that row.  A row has no newline in it, and stands between newlines or the ends of
the body. -/
structure Within (base : Nat) (body : Text) (l : Line) : Prop where
  row : ∃ before row after, body = before ++ (row ++ after) ∧ '\n' ∉ row ∧
    (before = [] ∨ before.getLast? = some '\n') ∧ (after = [] ∨ after.head? = some '\n') ∧
    l.text = Text.trim row ∧
    l.span = Span.ofPiece
      (base + Text.byteLength before + Text.byteLength (Text.leading row)) l.text
  text_ne_nil : l.text ≠ []

theorem ofPiece?_eq_some_iff {start : Nat} {piece : Text} {l : Line} :
    ofPiece? start piece = some l ↔
      l.text = Text.trim piece ∧ l.text ≠ [] ∧
        l.span = Span.ofPiece (start + Text.byteLength (Text.leading piece)) l.text := by
  obtain ⟨text, span⟩ := l
  simp only [ofPiece?]
  split
  · rename_i hnil
    simp only [reduceCtorEq, false_iff, not_and]
    rintro rfl hne
    exact absurd hnil hne
  · rename_i hne
    simp only [Option.some.injEq, mk.injEq]
    constructor
    · rintro ⟨rfl, rfl⟩
      exact ⟨rfl, hne, rfl⟩
    · rintro ⟨rfl, -, rfl⟩
      exact ⟨rfl, rfl⟩

theorem map_text_ofPiece? (start : Nat) (row : Text) (h : '\n' ∉ row) :
    (ofPiece? start row).toList.map Line.text = Text.rows row := by
  rw [Text.rows_of_not_mem h]
  simp only [ofPiece?]
  split <;> rfl

variable {base : Nat} {body : Text} {l : Line}

theorem Within.newline_not_mem (h : l.Within base body) : '\n' ∉ l.text := by
  obtain ⟨⟨before, row, after, -, hrow, -, -, htext, -⟩, -⟩ := h
  rw [htext]
  exact fun hmem => hrow (Text.mem_of_mem_trim hmem)

/-- The span of a line lies on its text. -/
theorem Within.covers {source : Text} (h : l.Within base body)
    (hbody : (Span.ofPiece base body).Covers source body) : l.span.Covers source l.text := by
  obtain ⟨⟨before, row, after, hsplit, -, -, -, htext, hspan⟩, -⟩ := h
  obtain ⟨front, back, hsource, hbase⟩ := hbody
  refine ⟨front ++ before ++ Text.leading row,
    Text.trailing (Text.trimStart row) ++ (after ++ back), ?_, ?_⟩
  · rw [hsource, hsplit, htext]
    conv_lhs => rw [← Text.leading_append_trim_append row]
    simp
  · have hstart : base = Text.byteLength front := congrArg Span.start hbase
    rw [hspan, hstart, Text.byteLength_append, Text.byteLength_append]

/-- A line is not empty and lies inside the body. -/
theorem Within.bounds (h : l.Within base body) :
    base ≤ l.span.start ∧ l.span.start < l.span.stop ∧
      l.span.stop ≤ base + Text.byteLength body := by
  obtain ⟨⟨before, row, after, hsplit, -, -, -, htext, hspan⟩, hne⟩ := h
  have hpos : Text.byteLength l.text ≠ 0 := fun h => hne (Text.byteLength_eq_zero.mp h)
  have hrow := congrArg Text.byteLength (Text.leading_append_trim_append row)
  rw [← htext] at hrow
  simp only [Text.byteLength_append] at hrow
  rw [hspan, hsplit]
  simp only [Span.ofPiece, Text.byteLength_append]
  omega

/-- A line of the first row. -/
theorem Within.of_first {row after : Text} (hrow : '\n' ∉ row)
    (hafter : after = [] ∨ after.head? = some '\n') (h : ofPiece? base row = some l) :
    l.Within base (row ++ after) := by
  obtain ⟨htext, hne, hspan⟩ := ofPiece?_eq_some_iff.mp h
  exact ⟨⟨[], row, after, rfl, hrow, Or.inl rfl, hafter, htext, by simpa using hspan⟩, hne⟩

/-- A line of a later row. -/
theorem Within.of_rest {first rest : Text}
    (h : l.Within (base + Text.byteLength first + 1) rest) :
    l.Within base (first ++ '\n' :: rest) := by
  obtain ⟨⟨before, row, after, hsplit, hrow, hbefore, hafter, htext, hspan⟩, hne⟩ := h
  refine ⟨⟨first ++ '\n' :: before, row, after, ?_, hrow, Or.inr ?_, hafter, htext, ?_⟩, hne⟩
  · rw [hsplit]
    simp
  · rcases hbefore with rfl | hlast
    · simp
    · rw [List.getLast?_append, List.getLast?_cons, hlast]
      rfl
  · rw [hspan, Text.byteLength_append, Text.byteLength_cons]
    congr 1
    have hone : ('\n' : Char).utf8Size = 1 := rfl
    omega

end Line

theorem lines_of_not_mem (base : Nat) {row : Text} (h : '\n' ∉ row) :
    lines base row = (Line.ofPiece? base row).toList := by
  rw [lines, List.splitOn_eq_singleton h, Line.ofPieces_cons, Line.ofPieces_nil, List.append_nil]

theorem lines_append_newline (base : Nat) {row : Text} (h : '\n' ∉ row) (rest : Text) :
    lines base (row ++ '\n' :: rest) =
      (Line.ofPiece? base row).toList ++ lines (base + Text.byteLength row + 1) rest := by
  rw [lines, List.splitOn_append_cons_self, List.splitOn_eq_singleton h, List.singleton_append,
    Line.ofPieces_cons, lines]

/-- **The lines of a body have its rows as texts**, wherever the body stands. -/
theorem map_text_lines (base : Nat) (body : Text) :
    (lines base body).map Line.text = Text.rows body := by
  induction body using Text.rowInduction generalizing base with
  | last row hrow => rw [lines_of_not_mem base hrow, Line.map_text_ofPiece? base row hrow]
  | more row rest hrow ih =>
    rw [lines_append_newline base hrow, List.map_append, Line.map_text_ofPiece? base row hrow,
      ih, Text.rows_append_newline]

/-- **Every line is a row of the body.** -/
theorem within_of_mem_lines {base : Nat} {body : Text} {l : Line} (h : l ∈ lines base body) :
    l.Within base body := by
  induction body using Text.rowInduction generalizing base with
  | last row hrow =>
    rw [lines_of_not_mem base hrow, Option.mem_toList] at h
    have hwithin := Line.Within.of_first hrow (Or.inl rfl) h
    rwa [List.append_nil] at hwithin
  | more row rest hrow ih =>
    rw [lines_append_newline base hrow, List.mem_append, Option.mem_toList] at h
    rcases h with hfirst | hrest
    · exact Line.Within.of_first hrow (Or.inr rfl) hfirst
    · exact (ih hrest).of_rest

/-- **Lines come in order**, with at least a newline in between. -/
theorem pairwise_lines (base : Nat) (body : Text) :
    (lines base body).Pairwise fun a b => a.span.stop < b.span.start := by
  have single : ∀ (base : Nat) (row : Text),
      (Line.ofPiece? base row).toList.Pairwise fun a b => a.span.stop < b.span.start := by
    intro base row
    cases Line.ofPiece? base row with
    | none => exact List.Pairwise.nil
    | some l => exact List.pairwise_singleton _ l
  induction body using Text.rowInduction generalizing base with
  | last row hrow =>
    rw [lines_of_not_mem base hrow]
    exact single base row
  | more row rest hrow ih =>
    rw [lines_append_newline base hrow]
    refine List.pairwise_append.mpr ⟨single base row, ih _, ?_⟩
    intro a ha b hb
    -- the first row ends in front of the newline, the other rows stand behind it
    have hin : a ∈ lines base row := by rwa [lines_of_not_mem base hrow]
    have hstop := (within_of_mem_lines hin).bounds.2.2
    have hstart := (within_of_mem_lines hb).bounds.1
    omega

/-- A line of a body is determined by its span. -/
theorem line_eq_of_span_eq {base : Nat} {body : Text} {l l' : Line} (hl : l ∈ lines base body)
    (hl' : l' ∈ lines base body) (h : l.span = l'.span) : l = l' := by
  have hapart : (lines base body).Pairwise fun a b => a.span ≠ b.span := by
    refine (pairwise_lines base body).imp_of_mem fun ha _ hlt heq => ?_
    have hbounds := (within_of_mem_lines ha).bounds
    rw [← heq] at hlt
    omega
  have hsame := List.Pairwise.forall_of_forall_of_flip
    (R := fun a b : Line => a.span = b.span → a = b) (fun _ _ _ => rfl)
    (hapart.imp fun hne heq => absurd heq hne) (hapart.imp fun hne heq => absurd heq.symm hne)
  exact hsame hl hl' h

end DiagramLint
